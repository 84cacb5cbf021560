import RecordingIndex.Metadata

/-!
# Reindex — the options of a run
-/

namespace RecordingIndex.Reindex

/-- What the caller of a run decides: the format of the segments, and compression settings that
replace the recovered ones where they are given. -/
structure Options where
  storageId         : String
  compressionFormat : Option String
  compressionMode   : Option String
  deriving DecidableEq

/-- The standard format, and the compression settings as they are recovered. -/
def Options.standard : Options := ⟨defaultStorageId, none, none⟩

end RecordingIndex.Reindex

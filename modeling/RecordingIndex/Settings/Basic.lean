import RecordingIndex.Reindex.Options

/-!
# Settings — what the program is told to do

Settings come from a file or are standard; what the command line gives replaces them
(`Settings.override`), and an empty text counts as given.  A run takes its options from them.
-/

namespace RecordingIndex

/-- What the program is told to do.  Settings of compression that are not given are taken from the
recording itself. -/
structure Settings where
  storageId         : String
  compressionFormat : Option String
  compressionMode   : Option String
  logFilter         : Option String
  deriving DecidableEq

/-- What replaces settings where it is given. -/
structure Overrides where
  storageId         : Option String
  compressionFormat : Option String
  compressionMode   : Option String
  deriving DecidableEq

namespace Settings

/-- The settings without a file. -/
def standard : Settings := ⟨defaultStorageId, none, none, none⟩

/-- The settings with what is given in place of what was there. -/
def override (s : Settings) (o : Overrides) : Settings :=
  { s with
    storageId         := o.storageId.getD s.storageId
    compressionFormat := o.compressionFormat.or s.compressionFormat
    compressionMode   := o.compressionMode.or s.compressionMode }

/-- The options of a run. -/
def options (s : Settings) : Reindex.Options :=
  ⟨s.storageId, s.compressionFormat, s.compressionMode⟩

end Settings

end RecordingIndex

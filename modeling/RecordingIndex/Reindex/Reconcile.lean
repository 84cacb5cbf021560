import RecordingIndex.FileSystem.Operations
import RecordingIndex.Notice
import RecordingIndex.Reindex.Options
import RecordingIndex.Segment.Basic

/-!
# Reindex — making a snapshot describe the whole recording

A snapshot knows one segment.  `reconcile` puts the names of all segments in place of what it lists
and the given compression settings in place of the recovered ones; `finalize` sums up the sizes that
the listed files have now, clamped to 64 bits.
-/

namespace RecordingIndex.Reindex

/-- The snapshot with the names of the segments and the given settings. -/
def reconciled (m : Metadata) (segments : List Segment) (o : Options) : Metadata :=
  { m with
    relativePaths     := segments.map Segment.fileName
    compressionFormat := o.compressionFormat.getD m.compressionFormat
    compressionMode   := o.compressionMode.getD m.compressionMode }

/-- Reconciles a snapshot with the segments found. -/
def reconcile (m : Metadata) (segments : List Segment) (o : Options) : Traced Metadata := do
  let r := reconciled m segments o
  Traced.report .debug .reindex "Reconciled segment list"
    [("segments", .count r.relativePaths.length),
     ("compression_format", .shown r.compressionFormat),
     ("compression_mode", .shown r.compressionMode)]
  return r

/-- The size of a listed file: nothing for what is no regular file or cannot be looked at. -/
def listedSize (fs : FileSystem) (dir : Path) (listed : String) : Nat :=
  match fs.stat (dir.join (.ofString listed)) with
  | .ok (_, .file c) => c.size
  | _                => 0

/-- The report on a listed file that contributes no size. -/
def reportSkipped (fs : FileSystem) (path : Path) : Traced Unit :=
  match fs.stat path with
  | .ok (_, .file _)  => pure ()
  | .ok _             =>
      Traced.report .debug .reindex "Listed segment is not a regular file, skipping"
        [("path", .shown path.display)]
  | .error .notFound  =>
      Traced.report .debug .reindex "Listed segment missing from disk, skipping"
        [("path", .shown path.display)]
  | .error e          =>
      Traced.report .warn .reindex "Failed to stat listed segment, skipping"
        [("path", .shown path.display), ("error", .shown e.message)]

/-- The sum of the sizes of the listed files. -/
def totalSize (fs : FileSystem) (dir : Path) (listed : List String) : UInt64 :=
  listed.foldl (fun total p => saturatingAdd total (clamp (listedSize fs dir p))) 0

/-- The description with the sum of the sizes of its files. -/
def finalized (fs : FileSystem) (dir : Path) (m : Metadata) : Metadata :=
  { m with bagSize := totalSize fs dir m.relativePaths }

/-- Sums up the sizes of the listed files. -/
def finalize (fs : FileSystem) (dir : Path) (m : Metadata) : Traced Metadata := do
  let _ ← m.relativePaths.mapM fun p => reportSkipped fs (dir.join (.ofString p))
  let r := finalized fs dir m
  Traced.report .debug .reindex "Size finalization complete"
    [("dir", .shown dir.display), ("bag_size", .count r.bagSize.toNat)]
  return r

end RecordingIndex.Reindex

import RecordingIndex.FileSystem.Resolve

/-!
# FileSystem — operations on paths

Questions (`stat`, `isFile`, `readText`, `list`) follow links to the end.  Of the changes, `write`
follows them too, while `rename`, `removeFile` and `symlink` work on the entry itself.  A change
fails for what stands at its places; that a system may refuse one for other reasons is told of where
it matters, in the moments of writing an index.
-/

namespace RecordingIndex.FileSystem

/-! ### Questions -/

/-- The place a path leads to and what is there, links followed. -/
def stat (fs : FileSystem) (p : Path) : Except FileError (Location × Entry) :=
  match fs.resolve .look p with
  | .ok (.entry l e) => .ok (l, e)
  | .ok (.free _)    => .error .notFound
  | .error e         => .error e

/-- Whether a path leads to anything. -/
def exists? (fs : FileSystem) (p : Path) : Bool := (fs.stat p).toOption.isSome

/-- Whether a path leads to a directory. -/
def isDirectory (fs : FileSystem) (p : Path) : Bool :=
  match fs.stat p with
  | .ok (_, .directory) => true
  | _                   => false

/-- Whether a path leads to a regular file. -/
def isFile (fs : FileSystem) (p : Path) : Bool :=
  match fs.stat p with
  | .ok (_, .file _) => true
  | _                => false

/-- The contents of the regular file that a path leads to. -/
def contents (fs : FileSystem) (p : Path) : Except FileError Contents :=
  match fs.stat p with
  | .ok (_, .file c) => .ok c
  | .ok _            => .error .isADirectory
  | .error e         => .error e

/-- The text of the regular file that a path leads to. -/
def readText (fs : FileSystem) (p : Path) : Except FileError String := do
  let c ← fs.contents p
  match Utf8.toString? c.bytes with
  | some s => .ok s
  | none   => .error .notText

/-- The names in the directory that a path leads to. -/
def list (fs : FileSystem) (p : Path) : Except FileError (List Bytes) :=
  match fs.stat p with
  | .ok (l, .directory) =>
      match fs.refusal? l with
      | some e => .error e
      | none   => .ok (fs.names l)
  | .ok _               => .error .notADirectory
  | .error e            => .error e

/-! ### Changes -/

/-- The regular file that `p` leads to holds `c`; it is made if it is missing. -/
def write (fs : FileSystem) (p : Path) (c : Contents) : Except FileError FileSystem :=
  match fs.resolve .make p with
  | .ok (.entry l (.file _)) => .ok (fs.insert l (.file c))
  | .ok (.entry _ _)         => .error .isADirectory
  | .ok (.free l)            => .ok (fs.insert l (.file c))
  | .error e                 => .error e

/-- The entries at `source` and below, moved to `target`, where nothing stands any more. -/
def move (fs : FileSystem) (source target : Location) : FileSystem :=
  let cleared := (fs.eraseBelow target).eraseBelow source
  let moved := fs.entries.filter fun x => source.isPrefixOf x.1
  moved.foldl (fun g x => g.insert (target ++ x.1.drop source.length) x.2) cleared

/-- The entry at `p` gets the name `q`.  A directory replaces only an empty directory, and another
entry only what is no directory. -/
def rename (fs : FileSystem) (p q : Path) : Except FileError FileSystem := do
  let source ← fs.resolve .lookAtLink p
  let target ← fs.resolve .lookAtLink q
  match source, target with
  | .free _, _ => .error .notFound
  | .entry s e, .free t =>
      if e = .directory ∧ s.isPrefixOf t then .error .invalid else .ok (fs.move s t)
  | .entry s e, .entry t e' =>
      if s = t then .ok fs
      else if e = .directory then
        if s.isPrefixOf t then .error .invalid
        else if e' ≠ .directory then .error .notADirectory
        else if fs.names t ≠ [] then .error .notEmpty
        else .ok (fs.move s t)
      else if e' = .directory then
        if t.isPrefixOf s then .error .notEmpty else .error .isADirectory
      else .ok (fs.move s t)

/-- The file system without the file or link at `p`. -/
def removeFile (fs : FileSystem) (p : Path) : Except FileError FileSystem :=
  match fs.resolve .lookAtLink p with
  | .ok (.entry _ .directory) => .error .isADirectory
  | .ok (.entry l _)          => .ok (fs.erase l)
  | .ok (.free _)             => .error .notFound
  | .error e                  => .error e

/-- The file system without the entry at `p`, a directory with all its contents. -/
def removeTree (fs : FileSystem) (p : Path) : Except FileError FileSystem :=
  match fs.resolve .lookAtLink p with
  | .ok (.entry l _) => .ok (fs.eraseBelow l)
  | .ok (.free _)    => .error .notFound
  | .error e         => .error e

/-- A link to `target` at `p`. -/
def symlink (fs : FileSystem) (target p : Path) : Except FileError FileSystem :=
  match fs.resolve .lookAtLink p with
  | .ok (.entry _ _) => .error .exists
  | .ok (.free l)    =>
      if target.bytes = [] then .error .notFound else .ok (fs.insert l (.link target))
  | .error e         => .error e

/-- The directory at `p`, in a directory that is there. -/
def makeDirectory (fs : FileSystem) (p : Path) : Except FileError FileSystem :=
  match fs.resolve .lookAtLink p with
  | .ok (.entry _ _) => if fs.isDirectory p then .ok fs else .error .exists
  | .ok (.free l)    => .ok (fs.insert l .directory)
  | .error e         => .error e

/-- The directory at `p` and those above it that are missing. -/
def makeDirectories (fs : FileSystem) (p : Path) : Except FileError FileSystem :=
  let parts := (Path.split Path.slash p.bytes).filter (· ≠ [])
  let start : Bytes := if p.isAbsolute then [Path.slash] else []
  (List.range parts.length).foldlM
    (fun g n => g.makeDirectory ⟨start ++ [Path.slash].intercalate (parts.take (n + 1))⟩) fs

end RecordingIndex.FileSystem

import RecordingIndex.Database.Basic
import RecordingIndex.FileSystem.Error
import RecordingIndex.Path

/-!
# FileSystem — entries at locations

A file system is a list of entries, each at a location: the names that lead to it from the root.
No two entries share a location, and a directory lists its entries in the order of the list, unless
the system refuses to list it.  The root is a directory of its own accord.

`FileSystem.get?` is the view of the file system, and the three changes are said through it:
`insert` sets one location, `erase` clears one, `eraseBelow` clears one with all that lies below.

An entry is a directory, a regular file or a symbolic link.  Special files lie outside, and so do
several names of one file.  Of permissions there is one, to list a directory: what is there can be
looked up, read, written and removed.  The steps that a system may refuse while an index is written
are those of `Index.Fault`.
-/

namespace RecordingIndex

/-- The names that lead from the root to an entry. -/
abbrev Location := List Bytes

/-- What a regular file holds: bytes, the last of them possibly a run of zeros, or a database of a
given size. -/
inductive Contents where
  | data (bytes : Bytes) (zeros : Nat)
  | database (tables : Database) (size : Nat)
  deriving DecidableEq

namespace Contents

/-- The file of a text. -/
def ofText (s : String) : Contents := .data (Utf8.ofString s) 0

/-- The number of bytes. -/
def size : Contents → Nat
  | .data b z     => b.length + z
  | .database _ n => n

/-- The bytes.  Of a database only the heading is told apart from zeros. -/
def bytes : Contents → Bytes
  | .data b z     => b ++ List.replicate z 0
  | .database _ n => (Utf8.ofString "SQLite format 3" ++ List.replicate n 0).take n

/-- The bytes cut, or filled up with zeros, to a size. -/
def resize (n : Nat) : Contents → Contents
  | .data b _     => if n ≤ b.length then .data (b.take n) 0 else .data b (n - b.length)
  | .database d _ => .database d n

end Contents

/-- What stands at a location. -/
inductive Entry where
  | directory
  | file (contents : Contents)
  | link (target : Path)
  deriving DecidableEq

/-- The reasons for which the system refuses to list the directories at some locations. -/
class Refusals where
  reason? : Location → Option FileError

/-- Where nothing else is said, every directory is listed. -/
instance Refusals.standard : Refusals := ⟨fun _ => none⟩

/-- Entries at distinct locations, the directory that relative paths start from, and what the system
refuses to list.  Refusals go by place: changing entries leaves them as they are. -/
structure FileSystem where
  entries  : List (Location × Entry)
  cwd      : Location
  [refusals : Refusals]
  distinct : (entries.map Prod.fst).Nodup

namespace FileSystem

/-- Nothing but the root. -/
def empty : FileSystem := ⟨[], [], List.nodup_nil⟩

/-- Why the directory at a location cannot be listed, if it cannot. -/
def refusal? (fs : FileSystem) (l : Location) : Option FileError := fs.refusals.reason? l

/-- What stands at a location; the root is a directory. -/
def get? (fs : FileSystem) (l : Location) : Option Entry :=
  if l = [] then some .directory else (fs.entries.find? fun x => x.1 = l).map Prod.snd

/-- The locations after one is given an entry are those before, if it was among them. -/
private theorem map_fst_replace (l : Location) (e : Entry) (xs : List (Location × Entry)) :
    (xs.map fun x => if x.1 = l then (l, e) else x).map Prod.fst = xs.map Prod.fst := by
  rw [List.map_map]
  refine List.map_congr_left fun x _ => ?_
  by_cases h : x.1 = l <;> simp [Function.comp, h]

/-- The file system with `e` at `l`, in place of what was there. -/
def insert (fs : FileSystem) (l : Location) (e : Entry) : FileSystem :=
  if h : l ∈ fs.entries.map Prod.fst then
    { fs with
      entries  := fs.entries.map fun x => if x.1 = l then (l, e) else x
      distinct := by rw [map_fst_replace]; exact fs.distinct }
  else
    { fs with
      entries  := fs.entries ++ [(l, e)]
      distinct := by
        rw [List.map_append, List.nodup_append]
        refine ⟨fs.distinct, by simp, fun a ha b hb => ?_⟩
        simp only [List.map_cons, List.map_nil, List.mem_singleton] at hb
        exact fun hab => h (hb ▸ hab ▸ ha) }

/-- The file system without the entries whose locations satisfy `p`. -/
def eraseWhere (fs : FileSystem) (p : Location → Bool) : FileSystem :=
  { fs with
    entries  := fs.entries.filter fun x => !p x.1
    distinct := (List.filter_sublist.map Prod.fst).nodup fs.distinct }

/-- The file system without the entry at `l`. -/
def erase (fs : FileSystem) (l : Location) : FileSystem := fs.eraseWhere (· = l)

/-- The file system without the entry at `l` and all below it. -/
def eraseBelow (fs : FileSystem) (l : Location) : FileSystem := fs.eraseWhere (l.isPrefixOf ·)

/-- The names in the directory at `l`, in its order. -/
def names (fs : FileSystem) (l : Location) : List Bytes :=
  fs.entries.filterMap fun x => if x.1.dropLast = l then x.1.getLast? else none

/-- Everything below `l`, by the names that lead to it from there. -/
def below (fs : FileSystem) (l : Location) : List (Location × Entry) :=
  fs.entries.filterMap fun x =>
    if l.isPrefixOf x.1 ∧ x.1 ≠ l then some (x.1.drop l.length, x.2) else none

end FileSystem

end RecordingIndex

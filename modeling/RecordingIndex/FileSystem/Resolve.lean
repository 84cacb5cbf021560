import RecordingIndex.FileSystem.Basic
import RecordingIndex.FileSystem.Error

/-!
# FileSystem — where a path leads

A walk takes the steps of a path from a directory, through links as it meets them
(`FileSystem.walk`); forty links may be followed, the next one fails.  What a walk does with the
last name depends on what is asked: to look at what a link leads to, to look at the link itself, or
to make something there.
-/

namespace RecordingIndex

/-- What a walk is for. -/
inductive Purpose where
  | look
  | lookAtLink
  | make
  deriving DecidableEq

/-- Where a walk ends: at an entry, or at a free name in a directory. -/
inductive Found where
  | entry (place : Location) (e : Entry)
  | free (place : Location)
  deriving DecidableEq

namespace FileSystem

/-- The links that one walk may follow. -/
def maxLinks : Nat := 40

/-- The bytes that one name may have. -/
def maxName : Nat := 255

/-- The bytes that a path may have, and one more. -/
def maxPath : Nat := 4096

/-- The walk from `here`; `follow` continues it through a link. -/
def walkWith (fs : FileSystem) (purpose : Purpose)
    (follow : Location → List Path.Step → Except FileError Found) :
    Location → List Path.Step → Except FileError Found
  | here, []              =>
      match fs.get? here with
      | some e => .ok (.entry here e)
      | none   => .error .notFound
  | here, .up :: rest     =>
      if fs.get? here = some .directory then walkWith fs purpose follow here.dropLast rest
      else .error .notADirectory
  | here, .stay :: rest   =>
      if fs.get? here = some .directory then walkWith fs purpose follow here rest
      else .error .notADirectory
  | here, .close :: rest  =>
      if fs.get? here = some .directory then walkWith fs purpose follow here rest
      else .error .notADirectory
  | here, .enter n :: rest =>
      if fs.get? here ≠ some .directory then .error .notADirectory
      else if maxName < n.length then .error .nameTooLong
      -- What is to be made as a file cannot have a slash behind its name.
      else if purpose = .make ∧ rest = [.close] then .error .isADirectory
      else
        match fs.get? (here ++ [n]) with
        | none           => if rest = [] then .ok (.free (here ++ [n])) else .error .notFound
        | some (.link t) =>
            if rest = [] ∧ purpose = .lookAtLink then .ok (.entry (here ++ [n]) (.link t))
            -- The rest of the path goes on from where the link leads.
            else follow (if t.isAbsolute then [] else here) (t.steps ++ rest)
        | some _         => walkWith fs purpose follow (here ++ [n]) rest

/-- The walk from a directory that may follow `links` links. -/
def walk (fs : FileSystem) (purpose : Purpose) :
    (links : Nat) → Location → List Path.Step → Except FileError Found
  | 0         => fs.walkWith purpose fun _ _ => .error .tooManyLinks
  | links + 1 => fs.walkWith purpose (fs.walk purpose links)

/-- Where a path leads. -/
def resolve (fs : FileSystem) (purpose : Purpose) (p : Path) : Except FileError Found :=
  if 0 ∈ p.bytes then .error .nulInPath
  else if p.bytes = [] then .error .notFound
  else if maxPath ≤ p.bytes.length then .error .nameTooLong
  else fs.walk purpose maxLinks (if p.isAbsolute then [] else fs.cwd) p.steps

end FileSystem

end RecordingIndex

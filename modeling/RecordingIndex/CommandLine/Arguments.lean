import RecordingIndex.Command.Perform

/-!
# CommandLine — arguments

The words of a command line are options, a command, and the options and the path of the command.
The settings file and the verbosity may be given before the command and behind it; what stands
behind it counts.  A word that starts with a dash is never the value of the option before it, but a
value may be attached to its option.  Behind two dashes there are only paths.
-/

namespace RecordingIndex.CommandLine

/-- The options that have a value. -/
inductive Slot where
  | settingsFile
  | template
  | storageId
  | compressionFormat
  | compressionMode
  deriving DecidableEq

/-- What is given before or behind the command. -/
structure Common where
  settingsFile : Option Path
  verbosity    : Nat

/-- What the words say. -/
structure Arguments where
  before            : Common
  behind            : Common
  template          : Option Path
  command           : Option Command
  path              : Option Path
  storageId         : Option String
  compressionFormat : Option String
  compressionMode   : Option String

/-- Why no words are read any more. -/
inductive Stop where
  | misuse
  | help
  | version
  deriving DecidableEq

namespace Arguments

/-- No words. -/
def empty : Arguments := ⟨⟨none, 0⟩, ⟨none, 0⟩, none, none, none, none, none, none⟩

/-- The settings file that counts. -/
def settingsFile (a : Arguments) : Option Path := a.behind.settingsFile.or a.before.settingsFile

/-- The verbosity that counts. -/
def verbosity (a : Arguments) : Nat :=
  if a.behind.verbosity = 0 then a.before.verbosity else a.behind.verbosity

/-- What replaces the settings of the file. -/
def overrides (a : Arguments) : Overrides := ⟨a.storageId, a.compressionFormat, a.compressionMode⟩

/-! ### Values -/

/-- What was given before the value of `place`, and the value, if it is the first. -/
def once {α : Type} (place : Option α) (value : Option α) : Except Stop (Option α) :=
  if place.isSome ∨ value.isNone then .error .misuse else .ok value

/-- The path of some bytes, of which there must be one. -/
def pathOf (b : Bytes) : Option Path := if b = [] then none else some ⟨b⟩

/-- The arguments with the value of an option. -/
def fill (a : Arguments) (value : Bytes) : Slot → Except Stop Arguments
  | .settingsFile      =>
      if a.command.isSome then do
        let file ← once a.behind.settingsFile (pathOf value)
        return { a with behind := { a.behind with settingsFile := file } }
      else do
        let file ← once a.before.settingsFile (pathOf value)
        return { a with before := { a.before with settingsFile := file } }
  | .template          => do return { a with template := ← once a.template (pathOf value) }
  | .storageId         => do
      return { a with storageId := ← once a.storageId (Utf8.toString? value) }
  | .compressionFormat => do
      return { a with compressionFormat := ← once a.compressionFormat (Utf8.toString? value) }
  | .compressionMode   => do
      return { a with compressionMode := ← once a.compressionMode (Utf8.toString? value) }

/-- The arguments that ask for more. -/
def louder (a : Arguments) : Arguments :=
  if a.command.isSome then
    { a with behind := { a.behind with verbosity := a.behind.verbosity + 1 } }
  else { a with before := { a.before with verbosity := a.before.verbosity + 1 } }

/-! ### Options -/

/-- The options that have a value, before the command and behind it. -/
def slots : Option Command → List Slot
  | none           => [.settingsFile, .template]
  | some .reindex  => [.settingsFile, .storageId, .compressionFormat, .compressionMode]
  | some .segments => [.settingsFile, .storageId]
  | some .info     => [.settingsFile]

/-- The long name of an option. -/
def longName : Slot → String
  | .settingsFile      => "config"
  | .template          => "gen-config"
  | .storageId         => "storage-id"
  | .compressionFormat => "compression-format"
  | .compressionMode   => "compression-mode"

/-- The short name of an option, if it has one. -/
def shortName? : Slot → Option Char
  | .settingsFile => some 'c'
  | .storageId    => some 's'
  | _             => none

/-- The byte of an ASCII character. -/
def byte (c : Char) : UInt8 := UInt8.ofNat c.toNat

/-- Reads an option by its long name, behind the two dashes.  The option waits for its value if it
has one and none is attached. -/
def long (a : Arguments) (word : Bytes) : Except Stop (Arguments × Option Slot) :=
  let name := word.takeWhile (· ≠ byte '=')
  let attached := (word.dropWhile (· ≠ byte '=')).tail?
  match (slots a.command).find? fun s => Utf8.ofString (longName s) = name, attached with
  | some s, some value => (a.fill value s).map fun a => (a, none)
  | some s, none       => .ok (a, some s)
  | none,   some _     => .error .misuse
  | none,   none       =>
      if name = Utf8.ofString "verbose" then .ok (a.louder, none)
      else if name = Utf8.ofString "help" then .error .help
      else if name = Utf8.ofString "version" ∧ a.command.isNone then .error .version
      else .error .misuse

/-- Reads options by their short names, behind the dash.  What stands behind an option with a value
is its value. -/
def short (a : Arguments) : Bytes → Except Stop (Arguments × Option Slot)
  | []     => .ok (a, none)
  | b :: r =>
      match (slots a.command).find? fun s => (shortName? s).map byte = some b with
      | some s =>
          if r = [] then .ok (a, some s)
          else
            let value := if r.head? = some (byte '=') then r.drop 1 else r
            (a.fill value s).map fun a => (a, none)
      | none   =>
          if b = byte 'v' then a.louder.short r
          else if b = byte 'h' then .error .help
          else if b = byte 'V' ∧ a.command.isNone then .error .version
          else .error .misuse

/-! ### Words -/

/-- The command of a name. -/
def commandOf? (word : Bytes) : Option Command :=
  if word = Utf8.ofString "reindex" then some .reindex
  else if word = Utf8.ofString "segments" then some .segments
  else if word = Utf8.ofString "info" then some .info
  else none

/-- The arguments with the path of the recording. -/
def addPath (a : Arguments) (word : Bytes) : Except Stop Arguments :=
  if a.command.isNone then .error .misuse
  else do return { a with path := ← once a.path (pathOf word) }

/-- Reads a word that is no option. -/
def plain (a : Arguments) (word : Bytes) : Except Stop Arguments :=
  if a.command.isSome then a.addPath word
  else if word = Utf8.ofString "help" then .error .help
  else
    match commandOf? word with
    | some c => .ok { a with command := some c }
    | none   => .error .misuse

/-- The arguments at the end of the words: a command has a path. -/
def finish (a : Arguments) : Except Stop Arguments :=
  if a.command.isSome ∧ a.path.isNone then .error .misuse else .ok a

/-- Reads words; `waiting` is the option whose value is the next one, and `onlyPaths` tells whether
two dashes have been read. -/
def readFrom (a : Arguments) (waiting : Option Slot) (onlyPaths : Bool) :
    List Bytes → Except Stop Arguments
  | []      => if waiting.isSome then .error .misuse else a.finish
  | w :: ws =>
      if onlyPaths then do (← a.addPath w).readFrom none true ws
      else if w.head? = some (byte '-') ∧ w ≠ [byte '-'] then
        if waiting.isSome then .error .misuse
        else if w = [byte '-', byte '-'] then a.readFrom none true ws
        else if w.drop 1 |>.head? |> (· = some (byte '-')) then do
          let (a, waiting) ← a.long (w.drop 2)
          a.readFrom waiting false ws
        else do
          let (a, waiting) ← a.short (w.drop 1)
          a.readFrom waiting false ws
      else
        match waiting with
        | some s => do (← a.fill w s).readFrom none false ws
        | none   => do (← a.plain w).readFrom none false ws

/-- What the words of a command line say. -/
def ofWords (words : List Bytes) : Except Stop Arguments := empty.readFrom none false words

end Arguments

end RecordingIndex.CommandLine

import RecordingIndex.CommandLine.Arguments
import RecordingIndex.Log.Filter
import RecordingIndex.Log.Line
import RecordingIndex.Settings.File
import RecordingIndex.Text.Quoted

/-!
# CommandLine — the program

A run of the program is a function of its words, of the log filter in its surroundings, and of the
file system.  A wish for a settings file comes first; then the settings are loaded, and then the
command is performed.  The exit code is 0 if it succeeds or there was nothing to do, 1 if it fails,
and 2 if the words are misused.
-/

namespace RecordingIndex.CommandLine

/-- What a run of the program leaves. -/
structure Finished where
  fileSystem : FileSystem
  exit       : Nat
  out        : String
  err        : String

/-- The name and the version of the program. -/
def versionText : String := "bagdex 0.1.0"

/-- How the program is used. -/
def helpText : List String :=
  ["Rebuild and inspect the metadata index of segmented recordings",
   "",
   "Usage: bagdex [OPTIONS] [COMMAND]",
   "",
   "Commands:",
   "  reindex   Rebuild the index file of a recording from its segment files",
   "  segments  List segment files in index order",
   "  info      Show the existing index file of a recording"]

/-! ### The log -/

/-- The filter when the surroundings give none. -/
def defaultFilter (verbosity : Nat) (s : Settings) : String :=
  match verbosity with
  | 0 => s.logFilter.getD "warn"
  | 1 => "info"
  | _ => "debug"

/-- The filter of a run, and lines on what is wrong with it.  One in the surroundings comes first,
if it is well-formed. -/
def filterOf (surroundings : Option String) (verbosity : Nat) (s : Settings) :
    Log.Filter × List String :=
  match surroundings.bind Log.Filter.ofText? with
  | some f => (f, [])
  | none   => Log.Filter.ofTextLossy (defaultFilter verbosity s)

/-- The text of a setting that may be missing. -/
def optionalText : Option String → String
  | some s => "Some(" ++ Text.quote s ++ ")"
  | none   => "None"

/-- The text of settings in the log. -/
def settingsText (s : Settings) : String :=
  "Config \x7b storage_id: " ++ Text.quote s.storageId ++
    ", compression_format: " ++ optionalText s.compressionFormat ++
    ", compression_mode: " ++ optionalText s.compressionMode ++
    ", log_filter: " ++ optionalText s.logFilter ++ " \x7d"

/-! ### Commands -/

/-- The report on the settings, where they matter. -/
def reportSettings (c : Command) (s : Settings) : Traced Unit :=
  match c with
  | .reindex => Traced.report .debug .commandLine "Effective configuration"
      [("config", .shown (settingsText s))]
  | _        => return ()

/-- The report on a failure of a command. -/
def reportFailure (f : Failure) : Traced Unit :=
  if f.isSoft then
    Traced.report .warn .commandLine "Nothing to do" [("error", .shown f.message)]
  else
    Traced.report .error .commandLine "Command failed"
      [("kind", .shown f.kind.name), ("error", .shown f.message)]

/-- The last line on what a command comes to. -/
def closingLine : Except Failure String → List String
  | .ok _    => []
  | .error f => [(if f.isSoft then "Warning: " else "Error: ") ++ f.message]

/-- The exit code of what a command comes to. -/
def exitOf : Except Failure String → Nat
  | .ok _    => 0
  | .error f => if f.isSoft then 0 else 1

/-- What a command comes to, with all reports. -/
def traced (c : Command) (s : Settings) (attempt : Traced (Except Failure String)) :
    Traced (Except Failure String) := do
  reportSettings c s
  let result ← attempt
  match result with
  | .ok _    => return result
  | .error f => do
      reportFailure f
      return result

/-- A run that performs a command. -/
def perform (surroundings : Option String) (a : Arguments) (loaded : Settings) (c : Command)
    (dir : Path) (fs : FileSystem) : Finished :=
  let (filter, complaints) := filterOf surroundings a.verbosity loaded
  let settings := loaded.override a.overrides
  let performed := c.perform settings fs dir
  let t := traced c settings performed.attempt
  let log := (t.events.filter filter.allows).map (Event.line (1 < a.verbosity))
  { fileSystem := performed.fileSystem
    exit       := exitOf t.value
    out        := t.value.toOption.getD ""
    err        := Text.lines (complaints ++ log ++ closingLine t.value) }

/-! ### Runs -/

/-- A run that only writes a settings file. -/
def generate (p : Path) (fs : FileSystem) : Finished :=
  match Settings.generate fs p with
  | .ok fs'  => ⟨fs', 0, Text.lines ["Generated default config at: " ++ p.display], ""⟩
  | .error e => ⟨fs, 1, "", Text.lines ["Failed to generate config: " ++ e.message]⟩

/-- A run with arguments. -/
def obey (surroundings : Option String) (a : Arguments) (fs : FileSystem) : Finished :=
  match a.template with
  | some p => generate p fs
  | none   =>
      match Settings.load fs a.settingsFile with
      | .error f => ⟨fs, 1, "", Text.lines ["Failed to load config: " ++ f.message]⟩
      | .ok s    =>
          match a.command, a.path with
          | some c, some dir => perform surroundings a s c dir fs
          | _,      _        => ⟨fs, 2, Text.lines helpText, ""⟩

/-- A run of the program. -/
def run (surroundings : Option String) (words : List Bytes) (fs : FileSystem) : Finished :=
  match Arguments.ofWords words with
  | .ok a           => obey surroundings a fs
  | .error .help    => ⟨fs, 0, Text.lines helpText, ""⟩
  | .error .version => ⟨fs, 0, Text.lines [versionText], ""⟩
  | .error .misuse  => ⟨fs, 2, "", Text.lines ["error: invalid arguments"]⟩

end RecordingIndex.CommandLine

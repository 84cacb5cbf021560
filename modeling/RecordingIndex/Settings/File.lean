import RecordingIndex.Failure
import RecordingIndex.FileSystem.Operations
import RecordingIndex.Json.Reader
import RecordingIndex.Settings.Basic
import RecordingIndex.Toml.Record

/-!
# Settings — settings files

The extension of a settings file tells its format.  Every setting may be left out; a setting of
compression and the log filter may also be null where the format knows nulls.
-/

namespace RecordingIndex.Settings

/-- The settings of a record. -/
def fields : List Json.Field :=
  [⟨"storage_id", false⟩, ⟨"compression_format", true⟩, ⟨"compression_mode", true⟩,
   ⟨"log_filter", true⟩]

/-- The settings with the given texts. -/
def ofTexts (text? : String → Option String) : Settings :=
  { storageId         := (text? "storage_id").getD standard.storageId
    compressionFormat := text? "compression_format"
    compressionMode   := text? "compression_mode"
    logFilter         := text? "log_filter" }

/-- The settings in a TOML text. -/
def parseToml (text : String) : Except Failure Settings :=
  match Toml.record (fields.map (·.name)) text with
  | .error c => .error (.config ("TOML parse error: " ++ c.message))
  | .ok ts   => .ok (ofTexts fun k => (ts.find? (·.1 = k)).map Prod.snd)

/-- The settings in a JSON text. -/
def parseJson (text : String) : Except Failure Settings :=
  match Json.record "Config" fields text with
  | .error c => .error (.config ("JSON parse error: " ++ c.message))
  | .ok ts   => .ok (ofTexts fun k => (ts.find? (·.1 = k)).bind Prod.snd)

/-- The extension of a path as text, empty if there is none or if it is no text. -/
def extensionText (p : Path) : String := (p.extension?.bind Utf8.toString?).getD ""

/-- The settings in a file. -/
def read (fs : FileSystem) (p : Path) : Except Failure Settings :=
  match fs.readText p with
  | .error e => .error (.io e)
  | .ok text =>
      if extensionText p = "toml" then parseToml text
      else if extensionText p = "json" then parseJson text
      else .error (.config ("Unknown config file extension: " ++ extensionText p))

/-- The settings in a file, or the standard ones if there is none. -/
def load (fs : FileSystem) : Option Path → Except Failure Settings
  | none   => .ok standard
  | some p => read fs p

/-! ### A file to start from -/

/-- The text of a settings file that says what is standard; `p` is where it is to stand. -/
def template (p : Path) : String :=
  "# bagdex configuration file\n" ++
  "# Generated by: bagdex --gen-config " ++ p.display ++ "\n" ++
  "#\n" ++
  "# Command-line flags take precedence over values in this file.\n" ++
  "\n" ++
  "# Storage format of the recording's segment files.\n" ++
  "# \"sqlite3\" reads <name>_<n>.db3 segments.\n" ++
  "storage_id = \"" ++ standard.storageId ++ "\"\n" ++
  "\n" ++
  "# Compression settings written into rebuilt indexes. When unset, the values\n" ++
  "# found in the first segment are kept.\n" ++
  "# compression_format = \"zstd\"\n" ++
  "# compression_mode = \"file\"\n" ++
  "\n" ++
  "# Default log filter when RUST_LOG is not set (e.g. \"info\", \"bagdex=debug\").\n" ++
  "# log_filter = \"warn\"\n"

/-- The file system with such a file at a path. -/
def generate (fs : FileSystem) (p : Path) : Except FileError FileSystem :=
  fs.write p (.ofText (template p))

end RecordingIndex.Settings

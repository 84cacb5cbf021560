import RecordingIndex.Proofs.FileSystem.Frame
import RecordingIndex.Proofs.Registry
import RecordingIndex.Proofs.Reindex.Report
import RecordingIndex.Proofs.Settings.Given
import RecordingIndex.Proofs.Toml.Line

/-!
# Proofs — Settings — what prevails

A setting has the value that the command line gives, else the one that the file gives, else what
there is without them (`Prevails`).  `Uses` says what a run makes of that: the storage identifier
decides both which files are segments and which backend reads the first of them, and a completed run
hands on the settings of compression that prevail over those of the snapshot.  That is what loaded
settings come to, whatever the command line gives (`prefers_load`).
-/

namespace RecordingIndex

/-- What two command lines give together, the second one first. -/
def Overrides.overlay (a b : Overrides) : Overrides :=
  ⟨b.storageId.or a.storageId, b.compressionFormat.or a.compressionFormat,
    b.compressionMode.or a.compressionMode⟩

namespace Settings

open Reindex

variable {fs : FileSystem} {file : Option Path} {dir : Path} {c : Settings} {o : Overrides}
  {Given : String → String → Prop}

/-! ### One setting -/

/-- The value of a setting that prevails.  An empty text that is given counts as given. -/
inductive Prevails (onLine : Option String) (InFile : String → Prop) (otherwise : String) :
    String → Prop where
  | onLine {s : String} (given : onLine = some s) : Prevails onLine InFile otherwise s
  | inFile {s : String} (unset : onLine = none) (given : InFile s) :
      Prevails onLine InFile otherwise s
  | otherwise (unset : onLine = none) (absent : ∀ s, ¬InFile s) :
      Prevails onLine InFile otherwise otherwise

theorem prevails_getD {inFile? : Option String} {InFile : String → Prop}
    (h : ∀ s, inFile? = some s ↔ InFile s) (onLine : Option String) (otherwise : String) :
    Prevails onLine InFile otherwise ((onLine.or inFile?).getD otherwise) := by
  cases onLine with
  | some s => exact .onLine rfl
  | none =>
      cases inFile? with
      | some s => exact .inFile rfl ((h s).mp rfl)
      | none => exact .otherwise rfl fun s hs => nomatch (h s).mpr hs

/-! ### A run -/

/-- A run uses the backend of a storage identifier, for the extension of segments as for reading
the first, and records settings of compression that stand in these relations to the snapshot. -/
structure Uses (registry : Registry) (persister : Persister) (fs : FileSystem) (dir : Path)
    (id : String) (Format Mode : String → String → Prop) (run : Run) : Prop where
  completed   : ∀ report, run.outcome = .ok (.completed report) →
                  ∃ (names : List Bytes) (first : Segment) (rest : List Segment) (b : Backend)
                    (s : Metadata),
                    (∀ n, n ∈ names ↔
                      Segment.IsFileName fs dir (registry.segmentExtension id) n) ∧
                    Segment.IsOrder (names.map dir.child) (first :: rest) ∧
                    registry.backend? id = some b ∧
                    (b.visit fs first.path Handle.metadata).trace.value = .ok s ∧
                    Format s.compressionFormat report.metadata.compressionFormat ∧
                    Mode s.compressionMode report.metadata.compressionMode ∧
                    run.fileSystem = (persister.write fs dir report.metadata).fileSystem
  noSegments  : ∀ d, run.outcome = .ok (.noSegments d) →
                  ∀ n, ¬Segment.IsFileName fs dir (registry.segmentExtension id) n
  unavailable : registry.backend? id = none → ∀ paths first rest,
                  Segment.listed fs dir (registry.segmentExtension id) = .ok paths →
                  Segment.order paths = .ok (first :: rest) →
                  run.outcome = .error (.backendUnavailable id)

variable {registry : Registry} {persister : Persister} {before : Stage} {id : String}
  {format? mode? : Option String}

theorem uses_runAfter {Format Mode : String → String → Prop}
    (hformat : ∀ s, Format s (format?.getD s)) (hmode : ∀ s, Mode s (mode?.getD s)) :
    Uses registry persister fs dir id Format Mode
      ((⟨registry, persister, ⟨id, format?, mode?⟩⟩ : Reindexer).runAfter before fs dir) where
  completed report h := by
    obtain ⟨ts, d, prepared, -, hfs, rfl⟩ := Reindexer.exists_prepared_of_completed h
    cases prepared with
    | drafted files order backend snapshot =>
        obtain ⟨names, rfl, -, hnames⟩ := Segment.exists_names_of_listed files
        obtain ⟨m, hvisit, rfl⟩ := Reindexer.exists_visit_of_recover snapshot
        exact ⟨names, _, _, _, m, hnames, Segment.isOrder_of_order order,
          Registry.backend_eq_ok_iff.mp backend, hvisit, hformat _, hmode _, hfs⟩
  noSegments d h n hn := by
    obtain ⟨names, hnil, -, hnames⟩ :=
      Segment.exists_names_of_listed (Reindexer.segmentFiles_of_noSegments h)
    obtain rfl := List.map_eq_nil_iff.mp hnil.symm
    cases (hnames n).mpr hn
  unavailable hnone paths first rest files order := by
    have prepared : Reindexer.Prepared ⟨registry, persister, ⟨id, format?, mode?⟩⟩ fs dir _ _ :=
      .unavailable files order (Registry.backend_eq_error_iff.mpr ⟨rfl, hnone⟩)
    exact prepared.outcome_runAfter before

/-! ### Loaded settings -/

theorem override_override (c : Settings) (a b : Overrides) :
    (c.override a).override b = c.override (a.overlay b) := by
  simp only [override, Overrides.overlay, Option.getD_or, Option.or_assoc]

/-- Settings stand behind what the command line gives and before what there is otherwise, which for
settings of compression is what the recording says itself. -/
structure Prefers (c : Settings) (Given : String → String → Prop) : Prop where
  runs      : ∀ (o : Overrides) (registry : Registry) (persister : Persister) (before : Stage)
                (fs : FileSystem) (dir : Path),
                ∃ id, Prevails o.storageId (Given "storage_id") "sqlite3" id ∧
                  Uses registry persister fs dir id
                    (Prevails o.compressionFormat (Given "compression_format"))
                    (Prevails o.compressionMode (Given "compression_mode"))
                    ((⟨registry, persister, (c.override o).options⟩ : Reindexer).runAfter
                      before fs dir)
  single    : ∀ key ∈ fields.map Json.Field.name, ∀ s t, Given key s → Given key t → s = t
  again     : ∀ a b, (c.override a).override b = c.override (a.overlay b)
  logFilter : ∀ o, (c.override o).logFilter = c.logFilter ∧
                ∀ s, c.logFilter = some s ↔ Given "log_filter" s

theorem IsGiven.prefers (h : IsGiven c Given) : Prefers c Given := by
  obtain ⟨text?, rfl, hgiven⟩ := h
  refine ⟨fun o registry persister before fs dir => ?_, fun key hkey s t hs ht => ?_,
    override_override _, fun o => ⟨rfl, hgiven "log_filter" (by decide)⟩⟩
  · have hstorage := prevails_getD (hgiven "storage_id" (by decide)) o.storageId "sqlite3"
    rw [Option.getD_or] at hstorage
    exact ⟨_, hstorage, uses_runAfter
      (prevails_getD (hgiven "compression_format" (by decide)) o.compressionFormat)
      (prevails_getD (hgiven "compression_mode" (by decide)) o.compressionMode)⟩
  · have htext := (hgiven key hkey s).mpr hs
    exact Option.some.inj (htext.symm.trans ((hgiven key hkey t).mpr ht))

/-- **Settings that are loaded** prefer the command line to the file, and the file to what there is
otherwise. -/
theorem prefers_load (fs : FileSystem) (file : Option Path) (c : Settings)
    (h : load fs file = .ok c) : Prefers c (FileGives fs file) :=
  (isGiven_of_load h).prefers

/-! ### A file that gives an empty text -/

namespace Sample

/-- The path of a settings file. -/
def path : Path := .ofString "/c.toml"

/-- What the file says. -/
def text : String := "compression_format = \"\"\n"

/-- The settings that it gives. -/
def settings : Settings := { standard with compressionFormat := some "" }

/-- The file alone. -/
def fileSystem : FileSystem :=
  FileSystem.empty.insert [Utf8.ofString "c.toml"] (.file (.ofText text))

theorem parseToml_text : parseToml text = .ok settings := by
  have htext : text.toList = "compression_format".toList ++ ' ' :: '=' :: ' ' :: '"' ::
      ([] ++ '"' :: ['\n']) := rfl
  have hdocument : Toml.Table.ofText text.toList =
      .ok ⟨.written, [("compression_format", .text "")]⟩ := by
    rw [htext, Toml.ofText_eq (by decide),
      Toml.lines_entry (by decide) rfl rfl rfl, String.ofList_toList]
    simp only [Toml.lines_nil]
    rfl
  rw [parseToml, Toml.record, hdocument]
  rfl

theorem load_path : load fileSystem (some path) = .ok settings := by
  have hwrite : FileSystem.empty.write path (.ofText text) = .ok fileSystem :=
    (FileSystem.Holds.free (by rfl)).write _
  have hext : extensionText path = "toml" := by rfl
  rw [load, read, FileSystem.readText_of_write hwrite]
  exact (if_pos hext).trans parseToml_text

/-- A run with these settings, of which the command line replaces one. -/
def reindexer : Reindexer :=
  { Reindexer.Sample.reindexer with
    options := (settings.override ⟨none, none, some "file"⟩).options }

theorem completed : ∃ report,
    (reindexer.runAfter .idle Reindexer.Sample.fileSystem (.ofString "/r")).outcome =
      .ok (.completed report) :=
  Reindexer.exists_completed .idle rfl Reindexer.Sample.order rfl rfl fun _ => rfl

end Sample

theorem prefers_load_empty :
    load Sample.fileSystem (some Sample.path) = .ok Sample.settings ∧
      Prefers Sample.settings (FileGives Sample.fileSystem (some Sample.path)) ∧
      ∃ report,
        (Sample.reindexer.runAfter .idle Reindexer.Sample.fileSystem (.ofString "/r")).outcome =
          .ok (.completed report) :=
  ⟨Sample.load_path, prefers_load _ _ _ Sample.load_path, Sample.completed⟩

end Settings

end RecordingIndex

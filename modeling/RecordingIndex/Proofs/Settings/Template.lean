import RecordingIndex.Proofs.FileSystem.Frame
import RecordingIndex.Proofs.Toml.Line
import RecordingIndex.Settings.File

/-!
# Proofs — Settings — a file to start from

A file that is made to start from shows its path in a comment.  If the comment can hold all of the
path as it is shown, the file says what is standard.  Otherwise the comment ends early, at the first
character that it cannot hold (`broken`): either no line can end there, and the file is refused, or
the rest of the path is read as lines of the file, which may then say something else (`Rereads`).
-/

namespace RecordingIndex.Settings

open Toml

variable {fs fs' : FileSystem} {p : Path}

/-! ### The parts of the template -/

/-- What the template says before it shows the path. -/
def opening : List Char :=
  "# bagdex configuration file\n".toList ++ "# Generated by: bagdex --gen-config ".toList

/-- What the template says behind the path. -/
def closing : List Char := (template ⟨[]⟩).toList.drop opening.length

/-- The path as it is shown, from the first character on that no comment can hold. -/
def broken (p : Path) : List Char := p.display.toList.dropWhile isTextCharacter

theorem drop_opening (cs : List Char) :
    ("# bagdex configuration file\n".toList ++
      ("# Generated by: bagdex --gen-config ".toList ++ cs)).drop opening.length = cs := by
  rw [← List.append_assoc]
  exact List.drop_left

theorem toList_template (p : Path) :
    (template p).toList = opening ++ (p.display.toList ++ closing) := by
  have hnone : (⟨[]⟩ : Path).display.toList = [] := rfl
  unfold closing template
  simp only [String.toList_append, List.append_assoc, hnone, List.nil_append, drop_opening]
  exact (List.append_assoc _ _ _).symm

theorem exists_closing : ∃ cs, closing = '\n' :: cs := by
  have hnone : (⟨[]⟩ : Path).display.toList = [] := rfl
  have hend : "\n".toList = ['\n'] := rfl
  unfold closing template
  simp only [String.toList_append, List.append_assoc, hnone, List.nil_append, drop_opening, hend,
    List.cons_append]
  exact ⟨_, rfl⟩

theorem dropWhile_shown (p : Path) :
    (p.display.toList ++ closing).dropWhile isTextCharacter = broken p ++ closing := by
  obtain ⟨cs, hclosing⟩ := exists_closing
  rw [List.dropWhile_append, ← broken]
  split
  · next hempty =>
      rw [List.isEmpty_iff.mp hempty, hclosing]
      rfl
  · rfl

/-- The comment that shows the path goes on to the first character that it cannot hold. -/
theorem lines_template (p : Path) :
    lines .start (template p).toList = (lineEnd (broken p ++ closing)).bind (lines .start) := by
  have hshown : opening ++ (p.display.toList ++ closing) =
      "# bagdex configuration file\n".toList ++ ('#' ::
        (" Generated by: bagdex --gen-config ".toList ++ (p.display.toList ++ closing))) :=
    List.append_assoc _ _ _
  rw [toList_template, hshown, lines_remark (by decide), lines_comment_append rfl, lines_comment,
    dropWhile_shown]

theorem lines_closing (s : Reader) :
    lines s closing = s.add ⟨[], "storage_id", .text "sqlite3"⟩ := by
  have hnone : (⟨[]⟩ : Path).display.toList = [] := rfl
  have hend : "\n".toList = ['\n'] := rfl
  -- The entry stands between lines that say nothing.
  have hentry (cs : List Char) : "storage_id = \"".toList ++
      (standard.storageId.toList ++ ("\"\n".toList ++ cs)) =
      "storage_id".toList ++ ' ' :: '=' :: ' ' :: '"' :: ("sqlite3".toList ++ '"' :: '\n' :: cs) :=
    rfl
  unfold closing template
  simp only [String.toList_append, List.append_assoc, hnone, List.nil_append, drop_opening, hend,
    List.cons_append]
  rw [lines_newline, lines_remark (by decide), lines_remark (by decide), lines_newline,
    lines_remark (by decide), lines_remark (by decide), hentry,
    lines_entry (by decide) rfl rfl rfl, String.ofList_toList, String.ofList_toList]
  cases s.add ⟨[], "storage_id", .text "sqlite3"⟩ with
  | error f => rfl
  | ok next =>
      rw [Except.bind, lines_newline, lines_remark (by decide), lines_remark (by decide),
        lines_remark (by decide), lines_remark (by decide), lines_newline,
        lines_remark (by decide), lines_remark_end (by decide)]

/-! ### Reading it -/

theorem head?_template (p : Path) : (template p).toList.head? = some '#' := by
  rw [toList_template]
  rfl

/-- Where a line ends behind the comment, the lines up to there say nothing. -/
theorem ofText_template {rest : List Char} (h : lineEnd? (broken p ++ closing) = some rest) :
    Table.ofText (template p).toList = Table.ofText (broken p ++ closing) := by
  have hhead : (broken p ++ closing).head? ≠ some '\uFEFF' := by
    rcases lineEnd?_eq_some_iff.mp h with heq | heq <;> simp [heq]
  rw [ofText_eq (by rw [head?_template]; decide), ofText_eq hhead, lines_template,
    lineEnd_of_lineEnd? h, lines_lineEnd h]
  rfl

theorem ofText_template_error (hcut : broken p ≠ []) (h : lineEnd? (broken p ++ closing) = none) :
    Table.ofText (template p).toList = .error .badLine := by
  rw [ofText_eq (by rw [head?_template]; decide), lines_template,
    lineEnd_of_none (by simp [hcut]) h]
  rfl

/-- What comes of reading a template with a path in it: the standard settings if the comment can
hold all of the path; else the comment ends early, where no line can end or where the rest of the
path goes on as lines of the file. -/
inductive Rereads (p : Path) : Except Failure Settings → Prop where
  | kept
      (whole : broken p = []) : Rereads p (.ok standard)
  | refused
      (cut : broken p ≠ []) (noEnd : lineEnd? (broken p ++ closing) = none) :
      Rereads p (.error (.config "TOML parse error: expected newline\n"))
  | continued {rest : List Char}
      (cut : broken p ≠ []) (ends : lineEnd? (broken p ++ closing) = some rest) :
      Rereads p (parseToml (String.ofList (broken p ++ closing)))

theorem parseToml_template_of_whole (whole : broken p = []) :
    parseToml (template p) = .ok standard := by
  obtain ⟨cs, hclosing⟩ := exists_closing
  have hend : lineEnd? (broken p ++ closing) = some cs := by
    rw [whole, hclosing]
    rfl
  have hdocument : Table.ofText (template p).toList =
      .ok ⟨.written, [("storage_id", .text "sqlite3")]⟩ := by
    rw [ofText_template hend, whole, List.nil_append, ofText_eq (by simp [hclosing]),
      lines_closing]
    rfl
  rw [parseToml, Toml.record, hdocument]
  rfl

theorem rereads_template (p : Path) : Rereads p (parseToml (template p)) := by
  by_cases whole : broken p = []
  · rw [parseToml_template_of_whole whole]
    exact .kept whole
  cases hend : lineEnd? (broken p ++ closing) with
  | none =>
      have hrefused : parseToml (template p) =
          .error (.config "TOML parse error: expected newline\n") := by
        rw [parseToml, Toml.record, ofText_template_error whole hend]
        rfl
      rw [hrefused]
      exact .refused whole hend
  | some rest =>
      have hcontinued : parseToml (template p) =
          parseToml (String.ofList (broken p ++ closing)) := by
        rw [parseToml, parseToml, Toml.record, Toml.record, ofText_template hend,
          String.toList_ofList]
      rw [hcontinued]
      exact .continued whole hend

theorem extensionText_of_extension? {ext : String} (h : p.extension? = some (Utf8.ofString ext)) :
    extensionText p = ext := by
  rw [extensionText, h, Option.bind_some, Utf8.toString?_ofString, Option.getD_some]

/-- What is read right after it has been made is the template. -/
theorem read_of_generate (hext : p.extension? = some (Utf8.ofString "toml"))
    (h : generate fs p = .ok fs') : read fs' p = parseToml (template p) := by
  have htext : fs'.readText p = .ok (template p) := FileSystem.readText_of_write h
  rw [read, htext]
  exact if_pos (extensionText_of_extension? hext)

/-- **A settings file to start from** says what is standard if its first comment can hold its path
as that is shown. -/
theorem rereads_generate (fs fs' : FileSystem) (p : Path)
    (hext : p.extension? = some (Utf8.ofString "toml")) (h : generate fs p = .ok fs') :
    Rereads p (read fs' p) := by
  rw [read_of_generate hext h]
  exact rereads_template p

/-! ### A path with a line end in it -/

namespace Sample

/-- A path in two lines, the second of which is a setting with a comment behind it. -/
def twoLines : Path := .ofString "a\nlog_filter = \"debug\" # .toml"

/-- The file at the path alone. -/
def generated : FileSystem :=
  FileSystem.empty.insert [Utf8.ofString "a\nlog_filter = \"debug\" # .toml"]
    (.file (.ofText (template twoLines)))

theorem extension?_twoLines : twoLines.extension? = some (Utf8.ofString "toml") := by rfl

theorem generate_twoLines : generate .empty twoLines = .ok generated :=
  (FileSystem.Holds.free (by rfl)).write _

theorem broken_twoLines : broken twoLines =
    '\n' :: ("log_filter".toList ++ ' ' :: '=' :: ' ' :: '"' ::
      ("debug".toList ++ '"' :: " # .toml".toList)) := by
  rfl

theorem lines_twoLines : lines .start (broken twoLines ++ closing) =
    .ok ⟨.empty .written,
      ⟨.written, [("log_filter", .text "debug"), ("storage_id", .text "sqlite3")]⟩, [], false⟩ := by
  obtain ⟨cs, hclosing⟩ := exists_closing
  have htail : lineTail (" # .toml".toList ++ closing) = .ok cs := by
    rw [hclosing]
    rfl
  have hrest (s : Reader) : lines s cs = s.add ⟨[], "storage_id", .text "sqlite3"⟩ := by
    rw [← lines_closing, hclosing, lines_newline]
  rw [broken_twoLines]
  simp only [List.cons_append, List.append_assoc]
  rw [lines_newline, lines_entry (by decide) rfl rfl htail, String.ofList_toList,
    String.ofList_toList]
  simp only [hrest]
  rfl

theorem parseToml_twoLines :
    parseToml (template twoLines) = .ok { standard with logFilter := some "debug" } := by
  have hend : ∃ rest, lineEnd? (broken twoLines ++ closing) = some rest :=
    ⟨_, by rw [broken_twoLines]; rfl⟩
  obtain ⟨rest, hend⟩ := hend
  have hdocument : Table.ofText (template twoLines).toList =
      .ok ⟨.written, [("log_filter", .text "debug"), ("storage_id", .text "sqlite3")]⟩ := by
    rw [ofText_template hend, ofText_eq (by simp [broken_twoLines]), lines_twoLines]
    rfl
  rw [parseToml, Toml.record, hdocument]
  rfl

end Sample

theorem rereads_generate_twoLines :
    Sample.twoLines.extension? = some (Utf8.ofString "toml") ∧
      generate .empty Sample.twoLines = .ok Sample.generated ∧
      Rereads Sample.twoLines (read Sample.generated Sample.twoLines) :=
  ⟨Sample.extension?_twoLines, Sample.generate_twoLines,
    rereads_generate _ _ _ Sample.extension?_twoLines Sample.generate_twoLines⟩

/-- What stands behind a line end in the path is a setting of the file. -/
theorem not_standard_twoLines :
    Sample.twoLines.extension? = some (Utf8.ofString "toml") ∧
      generate .empty Sample.twoLines = .ok Sample.generated ∧
      read Sample.generated Sample.twoLines = .ok { standard with logFilter := some "debug" } ∧
      read Sample.generated Sample.twoLines ≠ .ok standard := by
  have hread : read Sample.generated Sample.twoLines =
      .ok { standard with logFilter := some "debug" } := by
    rw [read_of_generate Sample.extension?_twoLines Sample.generate_twoLines,
      Sample.parseToml_twoLines]
  refine ⟨Sample.extension?_twoLines, Sample.generate_twoLines, hread, ?_⟩
  rw [hread]
  simp [standard]

end RecordingIndex.Settings

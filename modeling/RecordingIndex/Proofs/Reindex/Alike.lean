import RecordingIndex.Proofs.Index.Again
import RecordingIndex.Proofs.Reindex.Bytes
import RecordingIndex.Proofs.Reindex.Report
import RecordingIndex.Proofs.Segment.Fault

/-!
# Proofs — Reindex — what of a directory matters to a run

Two directories are *alike* (`Alike`) if they hold segment files of the same names and sizes, the
segment with the lowest number of the same bytes, and subdirectories of the same names, and if the
system lists both or refuses to for the same reason.  The other
files, the bytes of the other segments and the order of the entries may be anything.  In alike
directories a run prepares the same (`Prepared.of_alike`), comes to the same and writes the same
index (`runAfter_alike`), as long as the names have one fault at most.
-/

namespace RecordingIndex

namespace Segment

/-- The segment file has the lowest number in its directory. -/
structure IsLowest (fs : FileSystem) (dir : Path) (ext : String) (n : Bytes) : Prop where
  file   : IsFileName fs dir ext n
  lowest : ∃ id, idOf (dir.child n) = .ok id ∧
             ∀ m, IsFileName fs dir ext m → m ≠ n → ∃ j, idOf (dir.child m) = .ok j ∧ id < j

end Segment

namespace Reindex

/-- What of two directories is the same. -/
structure Alike (ext : String) (dir : Path) (fs₁ : FileSystem) (l₁ : Location) (fs₂ : FileSystem)
    (l₂ : Location) : Prop where
  plain₁      : fs₁.IsPlain l₁
  plain₂      : fs₂.IsPlain l₂
  refusal     : fs₁.refusal? l₁ = fs₂.refusal? l₂
  directories : ∀ n,
                  fs₁.get? (l₁ ++ [n]) = some .directory ↔ fs₂.get? (l₂ ++ [n]) = some .directory
  files       : ∀ n, (dir.child n).extension? = some (Utf8.ofString ext) → ∀ size,
                  (∃ c, fs₁.get? (l₁ ++ [n]) = some (.file c) ∧ c.size = size) ↔
                    ∃ c, fs₂.get? (l₂ ++ [n]) = some (.file c) ∧ c.size = size
  lowest      : ∀ n c₁ c₂, Segment.IsLowest fs₁ dir ext n →
                  fs₁.get? (l₁ ++ [n]) = some (.file c₁) → fs₂.get? (l₂ ++ [n]) = some (.file c₂) →
                  c₁.Same c₂

section

variable {fs₁ fs₂ : FileSystem} {dir : Path} {ext : String} {l₁ l₂ : Location} {k₁ k₂ : Nat}
  {n : Bytes} (h : Alike ext dir fs₁ l₁ fs₂ l₂) (tree₁ : fs₁.IsTree) (tree₂ : fs₂.IsTree)
  (w₁ : fs₁.Way dir l₁ k₁) (w₂ : fs₂.Way dir l₂ k₂)

include h

theorem Alike.size_eq {c₁ c₂ : Contents}
    (hext : (dir.child n).extension? = some (Utf8.ofString ext))
    (h₁ : fs₁.get? (l₁ ++ [n]) = some (.file c₁)) (h₂ : fs₂.get? (l₂ ++ [n]) = some (.file c₂)) :
    c₁.size = c₂.size := by
  obtain ⟨c, hc, hsize⟩ := (h.files n hext c₁.size).mp ⟨c₁, h₁, rfl⟩
  cases hc.symm.trans h₂
  exact hsize.symm

include tree₁ tree₂ w₁ w₂

theorem Alike.isFileName_iff :
    Segment.IsFileName fs₁ dir ext n ↔ Segment.IsFileName fs₂ dir ext n := by
  rw [Segment.isFileName_iff tree₁ w₁ h.plain₁, Segment.isFileName_iff tree₂ w₂ h.plain₂]
  refine and_congr_right fun _ => and_congr_right fun hext => ?_
  constructor
  · rintro ⟨c, hc⟩
    obtain ⟨c', hc', -⟩ := (h.files n hext c.size).mp ⟨c, hc, rfl⟩
    exact ⟨c', hc'⟩
  · rintro ⟨c, hc⟩
    obtain ⟨c', hc', -⟩ := (h.files n hext c.size).mpr ⟨c, hc, rfl⟩
    exact ⟨c', hc'⟩

/-- The same segment files are found, in some order. -/
theorem Alike.perm {paths₁ paths₂ : List Path} (files₁ : Segment.listed fs₁ dir ext = .ok paths₁)
    (files₂ : Segment.listed fs₂ dir ext = .ok paths₂) : paths₁.Perm paths₂ := by
  obtain ⟨names₁, rfl, nodup₁, mem₁⟩ := Segment.exists_names_of_listed files₁
  obtain ⟨names₂, rfl, nodup₂, mem₂⟩ := Segment.exists_names_of_listed files₂
  refine List.Perm.map _ ((List.perm_ext_iff_of_nodup nodup₁ nodup₂).mpr fun n => ?_)
  rw [mem₁, mem₂, h.isFileName_iff tree₁ tree₂ w₁ w₂]

/-- A segment file that is found holds something in both directories, of the same size. -/
theorem Alike.exists_contents {paths : List Path} {p : Path}
    (files : Segment.listed fs₁ dir ext = .ok paths) (hp : p ∈ paths) :
    ∃ n c₁ c₂, p = dir.child n ∧ Segment.IsFileName fs₁ dir ext n ∧
      fs₁.get? (l₁ ++ [n]) = some (.file c₁) ∧ fs₂.get? (l₂ ++ [n]) = some (.file c₂) ∧
      fs₁.contents p = .ok c₁ ∧ fs₂.contents p = .ok c₂ ∧ c₁.size = c₂.size := by
  obtain ⟨names, rfl, -, hnames⟩ := Segment.exists_names_of_listed files
  obtain ⟨n, hn, rfl⟩ := List.mem_map.mp hp
  have file₁ := (hnames n).mp hn
  obtain ⟨can, hext, c₁, hc₁⟩ := (Segment.isFileName_iff tree₁ w₁ h.plain₁).mp file₁
  obtain ⟨-, -, c₂, hc₂⟩ := (Segment.isFileName_iff tree₂ w₂ h.plain₂).mp
    ((h.isFileName_iff tree₁ tree₂ w₁ w₂).mp file₁)
  have name : Path.IsName n := tree₁.name (l := l₁) (by simp [hc₁])
  exact ⟨n, c₁, c₂, rfl, file₁, hc₁, hc₂, (w₁.contents_child name h.plain₁).mpr ⟨can, hc₁⟩,
    (w₂.contents_child name h.plain₂).mpr ⟨can, hc₂⟩, h.size_eq hext hc₁ hc₂⟩

/-- The backend tells the same of the first segment in order. -/
theorem Alike.tells_eq {b : Backend} {paths : List Path} {first : Segment} {rest : List Segment}
    (hb : b.ReadsBytes) (files : Segment.listed fs₁ dir ext = .ok paths)
    (order : Segment.order paths = .ok (first :: rest)) :
    b.tells fs₁ first.path = b.tells fs₂ first.path := by
  obtain ⟨hmem, hid, hlowest⟩ := Segment.lowest_of_order order
  obtain ⟨n, c₁, c₂, hpath, file, hc₁, hc₂, contents₁, contents₂, -⟩ :=
    h.exists_contents tree₁ tree₂ w₁ w₂ files hmem
  refine hb fs₁ fs₂ first.path c₁ c₂ contents₁ contents₂ (h.lowest n c₁ c₂ ⟨file, ?_⟩ hc₁ hc₂)
  rw [hpath] at hid hlowest
  -- `first` is the lowest of the listed ones, and every segment file is listed.
  refine ⟨first.id, hid, fun m hm hmn => hlowest _ ?_ fun hchild => hmn ?_⟩
  · obtain ⟨names, rfl, -, hnames⟩ := Segment.exists_names_of_listed files
    exact List.mem_map_of_mem ((hnames m).mpr hm)
  · obtain ⟨l, -, hentry⟩ := hm.entry
    have name : Path.IsName n := tree₁.name (l := l₁) (by simp [hc₁])
    exact Path.eq_of_child_eq (tree₁.name hentry) name hchild

end

end Reindex

namespace Reindexer

open Reindex

variable {r : Reindexer} {fs₁ fs₂ : FileSystem} {dir : Path} {l₁ l₂ : Location} {k₁ k₂ : Nat}

/-- The runs read the same of the two directories: these are alike, the names of the segments have
one fault at most, and the backend reads nothing but the bytes of a segment. -/
structure ReadsAlike (r : Reindexer) (dir : Path) (fs₁ : FileSystem) (l₁ : Location)
    (fs₂ : FileSystem) (l₂ : Location) : Prop where
  alike   : Alike (r.registry.segmentExtension r.options.storageId) dir fs₁ l₁ fs₂ l₂
  faults  : ∀ paths, r.segmentFiles fs₁ dir = .ok paths → Segment.AtMostOneFault paths
  backend : ∀ b, r.registry.backend? r.options.storageId = some b → b.ReadsBytes

section

variable (h : r.ReadsAlike dir fs₁ l₁ fs₂ l₂) (tree₁ : fs₁.IsTree) (tree₂ : fs₂.IsTree)
  (w₁ : fs₁.Way dir l₁ k₁) (w₂ : fs₂.Way dir l₂ k₂)

include h tree₁ tree₂ w₁ w₂

theorem ReadsAlike.exists_files {paths : List Path} (files : r.segmentFiles fs₁ dir = .ok paths) :
    ∃ paths', r.segmentFiles fs₂ dir = .ok paths' ∧ paths.Perm paths' ∧
      Segment.order paths = Segment.order paths' := by
  obtain ⟨paths', files'⟩ := Segment.exists_listed w₂
    (h.alike.refusal.symm.trans (Segment.refusal?_of_listed w₁ files))
    (r.registry.segmentExtension r.options.storageId)
  have hperm := h.alike.perm tree₁ tree₂ w₁ w₂ files files'
  exact ⟨paths', files', hperm, Segment.order_eq_of_perm hperm (h.faults paths files)⟩

omit tree₁ tree₂ in
/-- Neither directory is listed, for the same reason. -/
theorem ReadsAlike.files_of_error {e : Failure} (files : r.segmentFiles fs₁ dir = .error e) :
    r.segmentFiles fs₂ dir = .error e := by
  have hrefusal := h.alike.refusal
  cases hrefused : fs₁.refusal? l₁ with
  | none =>
      obtain ⟨paths, files'⟩ := Segment.exists_listed w₁ hrefused
        (r.registry.segmentExtension r.options.storageId)
      cases files'.symm.trans files
  | some reason =>
      cases (Segment.listed_of_refused w₁ hrefused _).symm.trans files
      exact Segment.listed_of_refused w₂ (hrefusal.symm.trans hrefused) _

theorem ReadsAlike.recover_eq {b : Backend} {paths : List Path} {first : Segment}
    {rest : List Segment} (files : r.segmentFiles fs₁ dir = .ok paths)
    (order : Segment.order paths = .ok (first :: rest))
    (backend : r.registry.backend r.options.storageId = .ok b) :
    (recover b fs₁ first.path).trace.value = (recover b fs₂ first.path).trace.value := by
  have hreads := h.backend b (backend?_of_backend backend)
  rw [value_recover, value_recover, b.value_visit_metadata, b.value_visit_metadata,
    h.alike.tells_eq tree₁ tree₂ w₁ w₂ hreads files order]

/-- The sizes of the listed segments sum up to the same. -/
theorem ReadsAlike.finalized_eq {paths : List Path} {ss : List Segment}
    (files : r.segmentFiles fs₁ dir = .ok paths) (horder : Segment.IsOrder paths ss)
    (m : Metadata) :
    finalized fs₁ dir (reconciled m ss r.options) =
      finalized fs₂ dir (reconciled m ss r.options) := by
  obtain ⟨paths', files', hperm, -⟩ := h.exists_files tree₁ tree₂ w₁ w₂ files
  have hsize : totalSize fs₁ dir (ss.map Segment.fileName) =
      totalSize fs₂ dir (ss.map Segment.fileName) := by
    refine List.foldl_ext _ _ _ fun total name hname => ?_
    obtain ⟨s, hs, rfl⟩ := List.mem_map.mp hname
    obtain ⟨c₁, hc₁, hsize₁⟩ := exists_contents tree₁ files horder hs
    obtain ⟨c₂, hc₂, hsize₂⟩ := exists_contents tree₂ files' (horder.of_perm hperm) hs
    obtain ⟨n, d₁, d₂, -, -, -, -, hd₁, hd₂, heq⟩ := h.alike.exists_contents tree₁ tree₂ w₁ w₂ files
      (horder.perm.mem_iff.mp (List.mem_map_of_mem hs))
    -- A segment is measured by its file name below `dir`, which leads to where it was found.
    rw [join_fileName tree₁ files horder hs] at hc₁ hc₂
    cases hc₁.symm.trans hd₁
    cases hc₂.symm.trans hd₂
    rw [hsize₁, hsize₂, heq]
  exact congrArg (fun size => { reconciled m ss r.options with bagSize := size }) hsize

/-- **In alike directories** a run prepares the same. -/
theorem Prepared.of_alike {ts : List Stage} {x : Except Failure (Option Draft)}
    (prepared : Prepared r fs₁ dir ts x) : Prepared r fs₂ dir ts x := by
  -- The listings may differ in order, so that each case goes over the order of the segments.
  cases prepared with
  | undiscovered files => exact .undiscovered (h.files_of_error w₁ w₂ files)
  | empty files =>
      obtain ⟨paths', files', hperm, -⟩ := h.exists_files tree₁ tree₂ w₁ w₂ files
      exact .empty (hperm.nil_eq ▸ files')
  | unordered files order =>
      obtain ⟨paths', files', -, heq⟩ := h.exists_files tree₁ tree₂ w₁ w₂ files
      exact .unordered files' (heq ▸ order)
  | unavailable files order backend =>
      obtain ⟨paths', files', -, heq⟩ := h.exists_files tree₁ tree₂ w₁ w₂ files
      exact .unavailable files' (heq ▸ order) backend
  | unrecovered files order backend snapshot =>
      obtain ⟨paths', files', -, heq⟩ := h.exists_files tree₁ tree₂ w₁ w₂ files
      rw [h.recover_eq tree₁ tree₂ w₁ w₂ files order backend] at snapshot
      exact .unrecovered files' (heq ▸ order) backend snapshot
  | drafted files order backend snapshot =>
      obtain ⟨paths', files', -, heq⟩ := h.exists_files tree₁ tree₂ w₁ w₂ files
      rw [h.recover_eq tree₁ tree₂ w₁ w₂ files order backend] at snapshot
      rw [h.finalized_eq tree₁ tree₂ w₁ w₂ files (Segment.isOrder_of_order order)]
      exact .drafted files' (heq ▸ order) backend snapshot

end

/-! ### The outcome and the index -/

/-- **In alike directories** an index can be written or not for the same reason. -/
theorem value_store_of_alike {ext : String} (h : Alike ext dir fs₁ l₁ fs₂ l₂)
    (w₁ : fs₁.Way dir l₁ k₁) (w₂ : fs₂.Way dir l₂ k₂) (m : Metadata) :
    (Index.store fs₁ dir m).2 = (Index.store fs₂ dir m).2 := by
  rw [Index.value_store w₁ h.plain₁, Index.value_store w₂ h.plain₂]
  simp only [h.directories]

theorem written_iff {fs : FileSystem} {m : Metadata} (hpersister : r.persister = Index.persister) :
    (r.persister.write fs dir m).attempt.trace.value = .ok () ↔
      (Index.store fs dir m).2 = .ok () := by
  rw [hpersister, Index.persister, Index.value_write]
  cases (Index.store fs dir m).2 with
  | error reason => simp [Except.mapError]
  | ok => simp [Except.mapError]

/-- A completed run has written the index it reports. -/
theorem fileSystem_of_completed {fs : FileSystem} {l : Location} {k : Nat} {before : Stage}
    {report : Report} (hpersister : r.persister = Index.persister) (w : fs.Way dir l k)
    (hplain : fs.IsPlain l)
    (h : (r.runAfter before fs dir).outcome = .ok (.completed report)) :
    Index.CanStore fs dir l ∧
      (r.runAfter before fs dir).fileSystem = Index.stored fs l report.metadata := by
  obtain ⟨ts, d, prepared, written, hfs, rfl⟩ := exists_prepared_of_completed h
  have hcan := Index.canStore_of_value w hplain ((written_iff hpersister).mp written)
  rw [hpersister, Index.persister, Index.fileSystem_write, Index.store_eq w hcan] at hfs
  exact ⟨hcan, hfs⟩

theorem isStored_of_completed {fs : FileSystem} {l : Location} {k : Nat} {before : Stage}
    {report : Report} (hpersister : r.persister = Index.persister) (htree : fs.IsTree)
    (w : fs.Way dir l k) (hplain : fs.IsPlain l)
    (h : (r.runAfter before fs dir).outcome = .ok (.completed report)) :
    Index.IsStored fs (r.runAfter before fs dir).fileSystem dir report.metadata l := by
  obtain ⟨hcan, hfs⟩ := fileSystem_of_completed hpersister w hplain h
  rw [hfs]
  exact Index.isStored_moved htree w hcan.draft hcan.short hcan.index

/-- **Only the bytes of the lowest segment matter**: in alike directories runs come to the same, and
completed ones leave the same index in both. -/
theorem runAfter_alike (r : Reindexer) (before₁ before₂ : Stage) (dir : Path)
    (fs₁ : FileSystem) (l₁ : Location) (fs₂ : FileSystem) (l₂ : Location)
    (htree₁ : fs₁.IsTree) (htree₂ : fs₂.IsTree)
    (hdir₁ : fs₁.stat dir = .ok (l₁, .directory)) (hdir₂ : fs₂.stat dir = .ok (l₂, .directory))
    (halike : r.ReadsAlike dir fs₁ l₁ fs₂ l₂) (hpersister : r.persister = Index.persister) :
    (r.runAfter before₁ fs₁ dir).outcome = (r.runAfter before₂ fs₂ dir).outcome ∧
      ∀ report, (r.runAfter before₁ fs₁ dir).outcome = .ok (.completed report) →
        Index.IsStored fs₁ (r.runAfter before₁ fs₁ dir).fileSystem dir report.metadata l₁ ∧
          Index.IsStored fs₂ (r.runAfter before₂ fs₂ dir).fileSystem dir report.metadata l₂ := by
  obtain ⟨k₁, w₁⟩ := FileSystem.exists_way hdir₁
  obtain ⟨k₂, w₂⟩ := FileSystem.exists_way hdir₂
  obtain ⟨ts, x, prepared₁⟩ := exists_prepared r fs₁ dir
  have prepared₂ := prepared₁.of_alike halike htree₁ htree₂ w₁ w₂
  have houtcome : (r.runAfter before₁ fs₁ dir).outcome = (r.runAfter before₂ fs₂ dir).outcome := by
    rw [prepared₁.outcome_runAfter, prepared₂.outcome_runAfter]
    rcases x with e | _ | d
    · rfl
    · rfl
    · simp only [result, hpersister, Index.persister, Index.value_write,
        value_store_of_alike halike.alike w₁ w₂]
  refine ⟨houtcome, fun report h => ⟨?_, ?_⟩⟩
  · exact isStored_of_completed hpersister htree₁ w₁ halike.alike.plain₁ h
  · exact isStored_of_completed hpersister htree₂ w₂ halike.alike.plain₂ (houtcome ▸ h)

/-! ### A recording that is disturbed -/

namespace Sample

/-- A database without topics and messages. -/
def tables : Database :=
  ⟨[⟨"topics", false, ["id", "name", "type", "serialization_format"], []⟩,
    ⟨"messages", false, ["id", "topic_id", "timestamp"], []⟩]⟩

/-- A directory with two segments, the second of which is no database. -/
def recording : FileSystem :=
  ((FileSystem.empty.insert [directory] .directory).insert
    ([directory] ++ [Utf8.ofString "s_9.db3"]) (.file (.database tables 8192))).insert
    ([directory] ++ [Utf8.ofString "s_10.db3"]) (.file (.data [1, 2] 0))

/-- The same recording, but for the order of its entries, the bytes of the second segment and an old
index with its draft. -/
def disturbed : FileSystem :=
  ((((FileSystem.empty.insert [directory] .directory).insert
    ([directory] ++ [Utf8.ofString "s_10.db3"]) (.file (.data [7] 1))).insert
    ([directory] ++ [Index.draftName]) (.file (.data [] 0))).insert
    ([directory] ++ [Utf8.ofString "s_9.db3"]) (.file (.database tables 8192))).insert
    ([directory] ++ [Index.indexName]) (.file (.data [0x78] 0))

/-- Databases are described in index files. -/
def indexer : Reindexer := ⟨⟨[Database.backend]⟩, Index.persister, .standard⟩

theorem isTree_recording : recording.IsTree :=
  ((FileSystem.isTree_empty.insert (l := []) rfl (by decide) (by decide)).insert rfl
    (by decide) (by decide)).insert rfl (by decide) (by decide)

theorem isTree_disturbed : disturbed.IsTree :=
  ((((FileSystem.isTree_empty.insert (l := []) rfl (by decide) (by decide)).insert rfl
    (by decide) (by decide)).insert rfl (by decide) (by decide)).insert rfl
    (by decide) (by decide)).insert rfl (by decide) (by decide)

theorem get?_recording (n : Bytes) : recording.get? ([directory] ++ [n]) =
    if n = Utf8.ofString "s_10.db3" then some (.file (.data [1, 2] 0))
    else if n = Utf8.ofString "s_9.db3" then some (.file (.database tables 8192)) else none := by
  rw [recording, FileSystem.get?_insert (by simp), FileSystem.get?_insert (by simp),
    FileSystem.get?_insert (by simp)]
  simp [FileSystem.get?, FileSystem.empty]

theorem get?_disturbed (n : Bytes) : disturbed.get? ([directory] ++ [n]) =
    if n = Index.indexName then some (.file (.data [0x78] 0))
    else if n = Utf8.ofString "s_9.db3" then some (.file (.database tables 8192))
    else if n = Index.draftName then some (.file (.data [] 0))
    else if n = Utf8.ofString "s_10.db3" then some (.file (.data [7] 1)) else none := by
  rw [disturbed, FileSystem.get?_insert (by simp), FileSystem.get?_insert (by simp),
    FileSystem.get?_insert (by simp), FileSystem.get?_insert (by simp),
    FileSystem.get?_insert (by simp)]
  simp [FileSystem.get?, FileSystem.empty]

theorem refusal?_recording : recording.refusal? [directory] = none := by
  rfl

theorem refusal?_disturbed : disturbed.refusal? [directory] = none := by
  rfl

theorem stat_recording :
    recording.stat (.ofString "/r") = .ok ([directory], .directory) := by
  decide

theorem stat_disturbed :
    disturbed.stat (.ofString "/r") = .ok ([directory], .directory) := by
  decide

theorem isPlain_recording : recording.IsPlain [directory] := by
  intro n t
  rw [get?_recording]
  split_ifs <;> simp

theorem isPlain_disturbed : disturbed.IsPlain [directory] := by
  intro n t
  rw [get?_disturbed]
  split_ifs <;> simp

theorem files_recording :
    indexer.segmentFiles recording (.ofString "/r") =
      .ok [.ofString "/r/s_9.db3", .ofString "/r/s_10.db3"] := by
  decide

theorem exists_snapshot :
    ∃ s, (recover Database.backend recording (.ofString "/r/s_9.db3")).trace.value = .ok s := by
  have hsome : (recover Database.backend recording
      (.ofString "/r/s_9.db3")).trace.value.toOption.isSome = true := by
    decide +kernel
  cases h : (recover Database.backend recording (.ofString "/r/s_9.db3")).trace.value with
  | error e => rw [h] at hsome; cases hsome
  | ok s => exact ⟨s, rfl⟩

theorem value_store_recording (m : Metadata) :
    (Index.store recording (.ofString "/r") m).2 = .ok () := by
  obtain ⟨k, w⟩ := FileSystem.exists_way stat_recording
  rw [Index.value_store w isPlain_recording, get?_recording, get?_recording]
  decide

theorem completed_indexer : ∃ report,
    (indexer.runAfter .done recording (.ofString "/r")).outcome = .ok (.completed report) := by
  obtain ⟨s, snapshot⟩ := exists_snapshot
  have backend : indexer.registry.backend indexer.options.storageId = .ok Database.backend := rfl
  exact exists_completed .done files_recording order backend snapshot fun m =>
    (written_iff rfl).mpr (value_store_recording m)

theorem isFileName_first :
    Segment.IsFileName recording (.ofString "/r") "db3" (Utf8.ofString "s_9.db3") :=
  ⟨⟨[directory], stat_recording, by decide⟩, by decide +kernel, by decide +kernel⟩

theorem idOf_first :
    Segment.idOf ((Path.ofString "/r").child (Utf8.ofString "s_9.db3")) = .ok 9 := by
  decide

theorem idOf_second :
    Segment.idOf ((Path.ofString "/r").child (Utf8.ofString "s_10.db3")) = .ok 10 := by
  decide

theorem alike_disturbed :
    Alike "db3" (.ofString "/r") recording [directory] disturbed [directory] where
  plain₁ := isPlain_recording
  plain₂ := isPlain_disturbed
  refusal := by rw [refusal?_recording, refusal?_disturbed]
  directories n := by
    rw [get?_recording, get?_disturbed]
    split_ifs <;> simp
  files n hext size := by
    have hindex : n ≠ Index.indexName := by
      rintro rfl
      revert hext
      decide
    have hdraft : n ≠ Index.draftName := by
      rintro rfl
      revert hext
      decide
    have hne : Utf8.ofString "s_10.db3" ≠ Utf8.ofString "s_9.db3" := by decide
    rw [get?_recording, get?_disturbed, if_neg hindex, if_neg hdraft]
    by_cases h10 : n = Utf8.ofString "s_10.db3"
    · rw [h10]
      simp [hne, Contents.size]
    · simp [h10]
  lowest n c₁ c₂ hlowest h₁ h₂ := by
    rw [get?_recording] at h₁
    rw [get?_disturbed] at h₂
    obtain ⟨id, hid, hall⟩ := hlowest.lowest
    split at h₁
    · next h10 =>
        -- The other segment has a lower number.
        rw [h10] at hid hall
        obtain ⟨j, hj, hlt⟩ := hall _ isFileName_first (by decide)
        cases idOf_second.symm.trans hid
        cases idOf_first.symm.trans hj
        exact absurd hlt (by decide)
    · split at h₁
      · next h9 =>
          have hne : Utf8.ofString "s_9.db3" ≠ Index.indexName := by decide
          rw [h9, if_neg hne, if_pos rfl] at h₂
          cases h₁
          cases h₂
          exact Contents.Same.refl _
      · cases h₁

theorem readsAlike_disturbed :
    indexer.ReadsAlike (.ofString "/r") recording [directory] disturbed [directory] where
  alike := alike_disturbed
  faults paths h := by
    cases files_recording.symm.trans h
    exact (Segment.isOrder_of_order order).atMostOneFault
  backend b h := by
    have hb : indexer.registry.backend? indexer.options.storageId = some Database.backend := rfl
    cases hb.symm.trans h
    exact Database.readsBytes_backend

end Sample

theorem runAfter_alike_disturbed :
    Sample.recording.IsTree ∧ Sample.disturbed.IsTree ∧
      Sample.recording.stat (.ofString "/r") = .ok ([Sample.directory], .directory) ∧
      Sample.disturbed.stat (.ofString "/r") = .ok ([Sample.directory], .directory) ∧
      Sample.indexer.ReadsAlike (.ofString "/r") Sample.recording [Sample.directory]
        Sample.disturbed [Sample.directory] ∧
      ∃ report,
        (Sample.indexer.runAfter .done Sample.recording (.ofString "/r")).outcome =
            .ok (.completed report) ∧
          (Sample.indexer.runAfter .idle Sample.disturbed (.ofString "/r")).outcome =
            .ok (.completed report) ∧
          Index.IsStored Sample.recording
            (Sample.indexer.runAfter .done Sample.recording (.ofString "/r")).fileSystem
            (.ofString "/r") report.metadata [Sample.directory] ∧
          Index.IsStored Sample.disturbed
            (Sample.indexer.runAfter .idle Sample.disturbed (.ofString "/r")).fileSystem
            (.ofString "/r") report.metadata [Sample.directory] := by
  have halike := runAfter_alike Sample.indexer .done .idle (.ofString "/r") Sample.recording
    [Sample.directory] Sample.disturbed [Sample.directory] Sample.isTree_recording
    Sample.isTree_disturbed Sample.stat_recording Sample.stat_disturbed
    Sample.readsAlike_disturbed rfl
  obtain ⟨report, h⟩ := Sample.completed_indexer
  exact ⟨Sample.isTree_recording, Sample.isTree_disturbed, Sample.stat_recording,
    Sample.stat_disturbed, Sample.readsAlike_disturbed, report, h, halike.1 ▸ h,
    halike.2 report h⟩

end Reindexer

end RecordingIndex

import RecordingIndex.Proofs.Reindex.Alike

/-!
# Proofs — Reindex — running again

A completed run changes its directory, but only in what the next run does not read: afterwards the
directory is alike the one before (`alike_stored`).  So the next run completes with the same report
and changes nothing (`runAfter_again`).
-/

namespace RecordingIndex

namespace Segment

variable {fs : FileSystem} {dir : Path} {ext : String} {l : Location} {k : Nat}

theorem idOf?_draft (dir : Path) : idOf? (dir.child Index.draftName) = none := by
  rw [idOf?, Path.stem?_child Index.isName_draftName]
  have hdivide : (Path.divide Index.draftName).1 = Utf8.ofString "metadata.yaml" := by decide
  rw [hdivide]
  have hstem : divideStem? (Utf8.ofString "metadata.yaml") = none := by decide
  simp [hstem]

/-- Where the segments can be ordered, no draft is among them. -/
theorem not_isFileName_draft {paths : List Path} {ss : List Segment}
    (files : listed fs dir ext = .ok paths) (horder : IsOrder paths ss) :
    ¬IsFileName fs dir ext Index.draftName := by
  intro hfile
  obtain ⟨names, rfl, -, hnames⟩ := exists_names_of_listed files
  have hmem := List.mem_map_of_mem (f := dir.child) ((hnames _).mpr hfile)
  obtain ⟨s, hs, hpath⟩ := List.mem_map.mp (horder.perm.mem_iff.mpr hmem)
  have hid := idOf_eq_ok_iff.mp (horder.named s hs)
  rw [hpath, idOf?_draft] at hid
  cases hid

end Segment

namespace Reindex

variable {fs : FileSystem} {dir : Path} {ext : String} {l : Location} {k : Nat}

/-- **A directory with a new index** is alike the one before, if neither the index nor a draft is
among the segments. -/
theorem alike_stored (htree : fs.IsTree) (w : fs.Way dir l k) (hplain : fs.IsPlain l)
    (hcan : Index.CanStore fs dir l) (hext : ext ≠ "yaml")
    (hdraft : ¬Segment.IsFileName fs dir ext Index.draftName) (m : Metadata) :
    Alike ext dir fs l (Index.stored fs l m) l := by
  have hindex : ∀ n, (dir.child n).extension? = some (Utf8.ofString ext) → n ≠ Index.indexName := by
    rintro n hn rfl
    rw [Path.extension?_child Index.isName_indexName] at hn
    have hyaml : (Path.divide Index.indexName).2 = some (Utf8.ofString "yaml") := by decide
    exact hext (Utf8.ofString_inj (Option.some.inj (hn.symm.trans hyaml)))
  have hfree : ∀ n c, (dir.child n).extension? = some (Utf8.ofString ext) →
      fs.get? (l ++ [n]) = some (.file c) → n ≠ Index.draftName := by
    rintro n c hn hfile rfl
    have hshort := hcan.short
    rw [Index.draftPath_eq] at hshort
    exact hdraft ((Segment.isFileName_iff htree w hplain).mpr
      ⟨⟨by decide, by decide, hshort⟩, hn, c, hfile⟩)
  -- Under all other names the same stands as before.
  have hsame : ∀ n, n ≠ Index.indexName → n ≠ Index.draftName →
      (Index.stored fs l m).get? (l ++ [n]) = fs.get? (l ++ [n]) := by
    intro n hi hd
    rw [Index.get?_stored htree w hcan, if_neg (by simpa using hi), if_neg (by simpa using hd)]
  have hgone : (Index.stored fs l m).get? (l ++ [Index.draftName]) = none := by
    rw [Index.get?_stored htree w hcan, if_neg (by simp [Index.draftName_ne_indexName]), if_pos rfl]
  constructor
  case plain₁ => exact hplain
  case plain₂ => exact Index.isPlain_stored htree w hcan hplain
  case refusal => rw [FileSystem.refusal?, FileSystem.refusal?, Index.refusals_stored]
  case directories =>
    intro n
    by_cases hi : n = Index.indexName
    · rw [hi, Index.get?_stored_index htree w hcan]
      simp [hcan.index]
    by_cases hd : n = Index.draftName
    · rw [hd, hgone]
      refine ⟨fun h => ?_, fun h => by cases h⟩
      obtain ⟨c, hc⟩ := hcan.draft _ h
      cases hc
    · rw [hsame n hi hd]
  case files =>
    intro n hn size
    by_cases hd : n = Index.draftName
    · rw [hd, hgone]
      refine ⟨fun ⟨c, hc, _⟩ => ?_, fun ⟨c, hc, _⟩ => by cases hc⟩
      exact absurd rfl (hfree _ c (hd ▸ hn) hc)
    · rw [hsame n (hindex n hn) hd]
  case lowest =>
    intro n c₁ c₂ hlowest h₁ h₂
    have hn := hlowest.file.extension
    rw [hsame n (hindex n hn) (hfree n c₁ hn h₁)] at h₂
    cases h₁.symm.trans h₂
    exact Contents.Same.refl c₁

end Reindex

namespace Reindexer

open Reindex

/-- **Running again** after a completed run comes to the same and changes nothing. -/
theorem runAfter_again (r : Reindexer) (before before' : Stage) (fs : FileSystem) (dir : Path)
    (report : Report) (htree : fs.IsTree)
    (hplain : ∀ l, fs.stat dir = .ok (l, .directory) → fs.IsPlain l)
    (hpersister : r.persister = Index.persister)
    (hext : r.registry.segmentExtension r.options.storageId ≠ "yaml")
    (hbackend : ∀ b, r.registry.backend? r.options.storageId = some b → b.ReadsBytes)
    (h : (r.runAfter before fs dir).outcome = .ok (.completed report)) :
    (r.runAfter before' (r.runAfter before fs dir).fileSystem dir).outcome =
        .ok (.completed report) ∧
      (r.runAfter before' (r.runAfter before fs dir).fileSystem dir).fileSystem =
        (r.runAfter before fs dir).fileSystem := by
  obtain ⟨ts, d, prepared, -, -, hreport⟩ := exists_prepared_of_completed h
  obtain ⟨paths, ss, files, horder⟩ := prepared.exists_order
  obtain ⟨l, hstat⟩ := Segment.exists_stat_of_listed files
  obtain ⟨k, w⟩ := FileSystem.exists_way hstat
  have hp := hplain l hstat
  obtain ⟨hcan, hfs⟩ := fileSystem_of_completed hpersister w hp h
  rw [hfs]
  have hreads : r.ReadsAlike dir fs l (Index.stored fs l report.metadata) l := by
    refine ⟨alike_stored htree w hp hcan hext (Segment.not_isFileName_draft files horder) _, ?_,
      hbackend⟩
    intro paths' files'
    cases files.symm.trans files'
    exact horder.atMostOneFault
  have htree' := Index.isTree_stored (m := report.metadata) htree w hcan
  have w' := Index.way_stored (m := report.metadata) htree w hcan hp
  have prepared' := prepared.of_alike hreads htree htree' w w'
  have hagain := Index.store_again (m := report.metadata) htree w hcan hp
  have hmetadata : d.metadata = report.metadata := by rw [hreport]; rfl
  constructor
  · rw [prepared'.outcome_runAfter, result, hpersister, Index.persister, Index.value_write,
      hmetadata, hagain, hreport, hpersister]
    rfl
  · rw [prepared'.fileSystem_runAfter, hpersister, Index.persister, Index.fileSystem_write,
      hmetadata, hagain]

/-- The recording with an old index and a draft completes too. -/
theorem Sample.completed_disturbed : ∃ report,
    (Sample.indexer.runAfter .idle Sample.disturbed (.ofString "/r")).outcome =
      .ok (.completed report) := by
  obtain ⟨report, h⟩ := Sample.completed_indexer
  obtain ⟨ts, d, prepared, -⟩ := exists_prepared_of_completed h
  obtain ⟨k₁, w₁⟩ := FileSystem.exists_way Sample.stat_recording
  obtain ⟨k₂, w₂⟩ := FileSystem.exists_way Sample.stat_disturbed
  have prepared' := prepared.of_alike Sample.readsAlike_disturbed Sample.isTree_recording
    Sample.isTree_disturbed w₁ w₂
  have hstore := value_store_of_alike Sample.alike_disturbed w₁ w₂ d.metadata
  have hwrite : (Sample.indexer.persister.write Sample.disturbed (.ofString "/r")
      d.metadata).attempt.trace.value = .ok () :=
    (written_iff rfl).mpr (hstore.symm.trans (Sample.value_store_recording d.metadata))
  rw [prepared'.outcome_runAfter, result, hwrite]
  exact ⟨_, rfl⟩

theorem runAfter_again_disturbed :
    Sample.disturbed.IsTree ∧
      (∀ l, Sample.disturbed.stat (.ofString "/r") = .ok (l, .directory) →
        Sample.disturbed.IsPlain l) ∧
      Sample.indexer.registry.segmentExtension Sample.indexer.options.storageId ≠ "yaml" ∧
      (∀ b, Sample.indexer.registry.backend? Sample.indexer.options.storageId = some b →
        b.ReadsBytes) ∧
      ∃ report fs',
        (Sample.indexer.runAfter .idle Sample.disturbed (.ofString "/r")).outcome =
            .ok (.completed report) ∧
          (Sample.indexer.runAfter .idle Sample.disturbed (.ofString "/r")).fileSystem = fs' ∧
          (Sample.indexer.runAfter .done fs' (.ofString "/r")).outcome = .ok (.completed report) ∧
          (Sample.indexer.runAfter .done fs' (.ofString "/r")).fileSystem = fs' := by
  have hplain : ∀ l, Sample.disturbed.stat (.ofString "/r") = .ok (l, .directory) →
      Sample.disturbed.IsPlain l := by
    intro l h
    cases Sample.stat_disturbed.symm.trans h
    exact Sample.isPlain_disturbed
  have hext : Sample.indexer.registry.segmentExtension Sample.indexer.options.storageId ≠ "yaml" :=
    by decide
  have hbackend := Sample.readsAlike_disturbed.backend
  obtain ⟨report, h⟩ := Sample.completed_disturbed
  obtain ⟨houtcome, hfs⟩ := runAfter_again Sample.indexer .idle .done Sample.disturbed
    (.ofString "/r") report Sample.isTree_disturbed hplain rfl hext hbackend h
  exact ⟨Sample.isTree_disturbed, hplain, hext, hbackend, report, _, h, rfl, houtcome, hfs⟩

end Reindexer

end RecordingIndex

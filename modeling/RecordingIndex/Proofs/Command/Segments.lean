import RecordingIndex.Command.Perform
import RecordingIndex.Proofs.Command.Table
import RecordingIndex.Proofs.Reindex.Alike
import RecordingIndex.Proofs.Reindex.Course

/-!
# Proofs — Command — listing segments agrees with reindexing

The list of segments and a run make their checks apart, but the same ones in the same order, so they
agree on every directory (`agrees_listSegments`): where the list is refused the run is, and where it
is not, a run that completes describes the segments in the lines of the list and the total in the
last of them.
-/

namespace RecordingIndex

theorem Traced.value_mapM {α β : Type} (f : α → Traced β) :
    ∀ xs : List α, (xs.mapM f).value = xs.map fun x => (f x).value
  | []      => rfl
  | x :: xs => by
      rw [List.mapM_cons, value_bind, value_bind, value_mapM f xs]
      rfl

namespace Command

open Reindex

variable {s : Settings} {fs : FileSystem} {dir : Path} {r : Reindexer}

/-! ### What a list shows -/

/-- The segments with their sizes. -/
def sized (fs : FileSystem) (ss : List Segment) : List (Segment × UInt64) :=
  ss.zip (ss.mapM fun x => segmentSize fs x.path).value

/-- The storage identifier at the head of a list, and the segments below with their sizes. -/
def shown (s : Settings) (fs : FileSystem) (dir : Path) :
    Except Failure (String × List (Segment × UInt64)) :=
  (orderedSegments Registry.standard.value s.storageId fs dir).trace.value.map
    fun (ss, b) => (b.storageId, sized fs ss)

/-- The text of a list is made of what it shows. -/
theorem value_listSegments (s : Settings) (fs : FileSystem) (dir : Path) :
    (listSegments s fs dir).trace.value =
      (shown s fs dir).map fun (id, rows) => segmentTable dir id rows := by
  rw [listSegments, shown, Attempt.value_trace_bind, Attempt.value_trace_monadLift]
  dsimp only
  rw [Attempt.value_trace_bind]
  cases (orderedSegments Registry.standard.value s.storageId fs dir).trace.value <;> rfl

section

variable {g : Registry} {id : String} {e : Failure} {paths : List Path}

theorem value_orderedSegments_of_error
    (files : Segment.listed fs dir (g.segmentExtension id) = .error e) :
    (orderedSegments g id fs dir).trace.value = .error e := by
  rw [orderedSegments, Attempt.value_trace_bind, Segment.value_discover, files]

theorem value_orderedSegments_of_empty
    (files : Segment.listed fs dir (g.segmentExtension id) = .ok []) :
    (orderedSegments g id fs dir).trace.value = .error (.noSegmentsFound dir) := by
  rw [orderedSegments, Attempt.value_trace_bind, Segment.value_discover, files]
  rfl

/-- Segments that are found are ordered and assigned to a backend. -/
theorem value_orderedSegments_of_found
    (files : Segment.listed fs dir (g.segmentExtension id) = .ok paths)
    (found : ¬paths.isEmpty = true) :
    (orderedSegments g id fs dir).trace.value =
      match Segment.order paths with
      | .error e => .error e
      | .ok ss   => (g.backend id).map fun b => (ss, b) := by
  rw [orderedSegments, Attempt.value_trace_bind, Segment.value_discover, files]
  dsimp only
  rw [if_neg found]
  show (Attempt.trace (Attempt.ofExcept (Segment.order paths) >>= _)).value = _
  rw [Attempt.value_trace_bind, Attempt.value_trace_ofExcept]
  cases Segment.order paths with
  | error e => rfl
  | ok ss =>
      dsimp only
      rw [Attempt.value_trace_bind, Attempt.value_trace_ofExcept]
      cases g.backend id <;> rfl

end

/-! ### Sizes -/

theorem map_fst_sized (fs : FileSystem) (ss : List Segment) : (sized fs ss).map Prod.fst = ss := by
  rw [sized, Traced.value_mapM, List.map_fst_zip (by simp)]

theorem fileNames_sized (fs : FileSystem) (ss : List Segment) :
    (sized fs ss).map (fun row => row.1.fileName) = ss.map Segment.fileName := by
  conv_rhs => rw [← map_fst_sized fs ss, List.map_map]
  rfl

theorem map_snd_sized (fs : FileSystem) (ss : List Segment) :
    (sized fs ss).map Prod.snd = ss.map fun x => (segmentSize fs x.path).value := by
  rw [sized, Traced.value_mapM, List.map_snd_zip (by simp)]

theorem value_segmentSize {p : Path} {c : Contents} (h : fs.contents p = .ok c) :
    (segmentSize fs p).value = clamp c.size := by
  rw [FileSystem.contents] at h
  split at h
  · next hstat =>
      cases h
      rw [segmentSize, hstat]
      rfl
  · cases h
  · cases h

/-- The sizes in a list sum up to that of the recording: each segment is found again under the name
that the description lists. -/
theorem bagSize_finalized {paths : List Path} {ss : List Segment} {m : Metadata} {o : Options}
    (htree : fs.IsTree) (files : r.segmentFiles fs dir = .ok paths)
    (order : Segment.IsOrder paths ss) :
    (finalized fs dir (reconciled m ss o)).bagSize = sumSizes (sized fs ss) := by
  have hsizes : (sized fs ss).map Prod.snd =
      (ss.map Segment.fileName).map fun p => clamp (listedSize fs dir p) := by
    rw [map_snd_sized, List.map_map]
    refine List.map_congr_left fun x hx => ?_
    obtain ⟨c, hc, hsize⟩ := Reindexer.exists_contents htree files order hx
    rw [Reindexer.join_fileName htree files order hx] at hc
    rw [Function.comp_apply, hsize, value_segmentSize hc]
  rw [sumSizes, hsizes, List.foldl_map]
  rfl

/-! ### Agreement -/

/-- A failure before any segment is opened. -/
def IsEarly (e : Failure) : Prop :=
  e.kind = .invalidDirectory ∨ e.kind = .malformedSegmentName ∨ e.kind = .duplicateSegmentId ∨
    e.kind = .backendUnavailable

/-- A failure to open the first segment or to write the index. -/
def IsLate (e : Failure) : Prop := e.kind = .segmentOpenFailed ∨ e.kind = .persistFailed

/-- What a list comes to agrees with what a run comes to. -/
structure Agrees (s : Settings) (fs : FileSystem) (dir : Path) (listing : Except Failure String)
    (outcome : Except Failure Outcome) : Prop where
  empty   : ∀ d, listing = .error (.noSegmentsFound d) ↔ outcome = .ok (.noSegments d)
  refused : ∀ e, IsEarly e → (listing = .error e ↔ outcome = .error e)
  failed  : ∀ e, listing = .error e → IsEarly e ∨ e.kind = .noSegmentsFound
  listed  : ∀ text, listing = .ok text →
              ∃ id rows, shown s fs dir = .ok (id, rows) ∧ IsTable dir id rows text ∧
                ((∃ e, outcome = .error e ∧ IsLate e) ∨
                  ∃ report, outcome = .ok (.completed report) ∧
                    report.metadata.relativePaths = rows.map (fun row => row.1.fileName) ∧
                    report.metadata.bagSize = sumSizes rows)

theorem agrees_of_early {e : Failure} (h : IsEarly e) : Agrees s fs dir (.error e) (.error e) where
  empty d     := by
    have hne : e ≠ .noSegmentsFound d := by
      rintro rfl
      simp [IsEarly, Failure.kind] at h
    simp [hne]
  refused e _ := by simp
  failed e he := .inl (Except.error.inj he ▸ h)
  listed _ h  := nomatch h

theorem agrees_of_empty :
    Agrees s fs dir (.error (.noSegmentsFound dir)) (.ok (.noSegments dir)) where
  empty d      := by simp
  refused e he := by
    have hne : Failure.noSegmentsFound dir ≠ e := by
      rintro rfl
      simp [IsEarly, Failure.kind] at he
    simp [hne]
  failed e he  := .inr (Except.error.inj he ▸ rfl)
  listed _ h   := nomatch h

theorem agrees_of_listing {outcome : Except Failure Outcome} {id : String}
    {rows : List (Segment × UInt64)} (hshown : shown s fs dir = .ok (id, rows))
    (h : (∃ e, outcome = .error e ∧ IsLate e) ∨
      ∃ report, outcome = .ok (.completed report) ∧
        report.metadata.relativePaths = rows.map (fun row => row.1.fileName) ∧
        report.metadata.bagSize = sumSizes rows) :
    Agrees s fs dir (.ok (segmentTable dir id rows)) outcome where
  empty d       := by
    rcases h with ⟨e, rfl, -⟩ | ⟨report, rfl, -⟩ <;> simp
  refused e he  := by
    rcases h with ⟨e', rfl, hlate⟩ | ⟨report, rfl, -⟩
    · have hne : e' ≠ e := by
        rintro rfl
        rcases hlate with hkind | hkind <;> simp [IsEarly, hkind] at he
      simp [hne]
    · simp
  failed _ h    := nomatch h
  listed text h' := ⟨id, rows, hshown, Except.ok.inj h' ▸ isTable_segmentTable dir id rows, h⟩

section

variable (hregistry : r.registry = Registry.standard.value)
  (hid : r.options.storageId = s.storageId)

include hregistry hid

/-- What the list shows, by what the run looks at. -/
theorem shown_eq : shown s fs dir =
    (orderedSegments r.registry r.options.storageId fs dir).trace.value.map
      fun (ss, b) => (b.storageId, sized fs ss) := by
  rw [shown, hregistry, hid]

theorem shown_of_backend {paths : List Path} {ss : List Segment} {b : Backend}
    (files : r.segmentFiles fs dir = .ok paths) (found : ¬paths.isEmpty = true)
    (order : Segment.order paths = .ok ss)
    (backend : r.registry.backend r.options.storageId = .ok b) :
    shown s fs dir = .ok (b.storageId, sized fs ss) := by
  rw [shown_eq hregistry hid, value_orderedSegments_of_found files found, order, backend]
  rfl

end

/-- **Listing segments** agrees with reindexing, whatever is in the directory and whatever the
compression settings are. -/
theorem agrees_listSegments (s : Settings) (fs : FileSystem) (dir : Path) (r : Reindexer)
    (before : Stage) (htree : fs.IsTree) (hregistry : r.registry = Registry.standard.value)
    (hid : r.options.storageId = s.storageId) (hindex : r.persister = Index.persister) :
    Agrees s fs dir (listSegments s fs dir).trace.value (r.runAfter before fs dir).outcome := by
  obtain ⟨us, x, prepared⟩ := Reindexer.exists_prepared r fs dir
  rw [prepared.outcome_runAfter before, value_listSegments]
  cases prepared with
  | undiscovered files =>
      rw [shown_eq hregistry hid, value_orderedSegments_of_error files]
      exact agrees_of_early (.inl (kind_of_listed files))
  | empty files =>
      rw [shown_eq hregistry hid, value_orderedSegments_of_empty files]
      exact agrees_of_empty
  | unordered files order =>
      have found := Reindexer.not_isEmpty_of_order order (by simp)
      rw [shown_eq hregistry hid, value_orderedSegments_of_found files found, order]
      exact agrees_of_early (.inr ((Segment.kind_of_order order).imp_right .inl))
  | unavailable files order backend =>
      have found := Reindexer.not_isEmpty_of_order order (by simp)
      rw [shown_eq hregistry hid, value_orderedSegments_of_found files found, order, backend]
      exact agrees_of_early (.inr (.inr (.inr (kind_of_backend backend))))
  | unrecovered files order backend snapshot =>
      have found := Reindexer.not_isEmpty_of_order order (by simp)
      have hshown := shown_of_backend hregistry hid files found order backend
      rw [hshown]
      exact agrees_of_listing hshown (.inl ⟨_, rfl, .inl (kind_of_recover snapshot)⟩)
  | @drafted paths first rest b t files order backend snapshot =>
      have found := Reindexer.not_isEmpty_of_order order (by simp)
      have hshown := shown_of_backend hregistry hid files found order backend
      rw [hshown, Reindexer.result]
      refine agrees_of_listing hshown ?_
      cases hwrite : (r.persister.write fs dir (finalized fs dir
          (reconciled t.metadata (first :: rest) r.options))).attempt.trace.value with
      | error e => exact .inl ⟨e, rfl, .inr (Index.failsToPersist _ _ _ _ (hindex ▸ hwrite))⟩
      | ok =>
          refine .inr ⟨_, rfl, ?_, ?_⟩
          · exact (fileNames_sized fs (first :: rest)).symm
          · exact bagSize_finalized htree files (Segment.isOrder_of_order order)

theorem agrees_listSegments_recording :
    Reindexer.Sample.recording.IsTree ∧
      Reindexer.Sample.indexer.registry = Registry.standard.value ∧
      Reindexer.Sample.indexer.options.storageId = Settings.standard.storageId ∧
      Reindexer.Sample.indexer.persister = Index.persister ∧
      Agrees .standard Reindexer.Sample.recording (.ofString "/r")
        (listSegments .standard Reindexer.Sample.recording (.ofString "/r")).trace.value
        (Reindexer.Sample.indexer.runAfter .done Reindexer.Sample.recording
          (.ofString "/r")).outcome :=
  ⟨Reindexer.Sample.isTree_recording, rfl, rfl, rfl,
    agrees_listSegments .standard Reindexer.Sample.recording (.ofString "/r")
      Reindexer.Sample.indexer .done Reindexer.Sample.isTree_recording rfl rfl rfl⟩

end Command

end RecordingIndex

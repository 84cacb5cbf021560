import RecordingIndex.Proofs.Index.Moments

/-!
# Proofs — Index — writing an index is all or nothing

Writing the index of a directory either puts its whole text in place of the index and changes
nothing else, or changes nothing but that a draft left there before may be gone (`AllOrNothing`).
The system may refuse any step on the way.  Only where it also refuses to take the draft back does
one stay behind that was not there before, with the first bytes of the text (`write_spec`).
-/

namespace RecordingIndex.Index

open Relation (ReflTransGen)

variable {fs fs' : FileSystem} {dir : Path} {m : Metadata} {l : Location} {k : Nat}

/-! ### Ends -/

/-- What the caller is told when storing ends. -/
def answer (dir : Path) (result : Except String Unit) : Except Failure Unit :=
  result.mapError (.persistFailed (path dir))

/-- The index of `m` is stored, or nothing is changed but for a draft that may be gone. -/
inductive AllOrNothing (fs : FileSystem) (dir : Path) (m : Metadata) (fs' : FileSystem) :
    Except Failure Unit → Prop where
  | stored {l : Location} (stored : IsStored fs fs' dir m l) : AllOrNothing fs dir m fs' (.ok ())
  | kept {reason : String} (kept : IsKept fs fs' dir) :
      AllOrNothing fs dir m fs' (.error (.persistFailed (path dir) reason))

/-- Nothing is changed, but for a draft that holds the first bytes of the text. -/
def IsLeft (fs fs' : FileSystem) (dir : Path) (m : Metadata) : Prop :=
  ∃ l n, fs.stat dir = .ok (l, .directory) ∧ n ≤ textSize m ∧
    fs'.get? (l ++ [draftName]) = some (.file (part m n)) ∧
      ∀ x, x ≠ l ++ [draftName] → fs'.get? x = fs.get? x

/-- Nothing has gone wrong. -/
def Point.IsSound : Point → Prop
  | .begun | .drafting _ _ | .ended (.ok _) => True
  | .broken _ | .ended (.error _)           => False

section

variable {p q : Moment}

theorem Step.isSound (h : Step dir m p q) (hq : q.point.IsSound) : p.point.IsSound := by
  cases h with
  | refuse | fail | remain | discard => exact hq.elim
  | create | extend | rename => trivial

theorem Fault.not_isSound (h : Fault dir p q) : ¬q.point.IsSound := by
  cases h <;> exact not_false

/-- Up to a sound moment nothing went wrong, so that moment is one of `store`. -/
theorem Foretells.later (h : Foretells fs dir m p) (hlater : Later dir m p q)
    (hq : q.point.IsSound) : Foretells fs dir m q := by
  induction hlater with
  | refl => exact h
  | tail _ hnext ih =>
      rcases hnext with hstep | hfault
      · exact (ih (hstep.isSound hq)).step hstep
      · exact absurd hq hfault.not_isSound

end

/-- Storing that ends well is that of `store`, whatever may be refused. -/
theorem store_of_later (h : Later dir m ⟨fs, .begun⟩ ⟨fs', .ended (.ok ())⟩) :
    store fs dir m = (fs', .ok ()) := by
  have hbegun : Foretells fs dir m ⟨fs, .begun⟩ := rfl
  exact hbegun.later h trivial

/-- Storing that ends badly keeps all but the draft. -/
theorem isKept_or_isLeft {reason : String} (htree : fs.IsTree) (hlink : ¬DraftIsLink fs dir)
    (h : Later dir m ⟨fs, .begun⟩ ⟨fs', .ended (.error reason)⟩) :
    IsKept fs fs' dir ∨ IsLeft fs fs' dir m := by
  cases hdir : fs.isDirectory dir with
  | false => exact .inl (.inl (fileSystem_of_later hdir h))
  | true =>
  obtain ⟨l, hstat⟩ := FileSystem.exists_of_isDirectory hdir
  obtain ⟨k, w⟩ := FileSystem.exists_way hstat
  have occurs : Occurs fs dir l m ⟨fs', .ended (.error reason)⟩ :=
    Occurs.later htree w hlink .begun h
  cases occurs with
  | kept _ kept => exact .inl kept
  | @left n _ within =>
      refine .inr ⟨l, n, hstat, within, ?_, fun x hx => get?_insert_draft hx⟩
      rw [FileSystem.get?_insert (by simp), if_pos rfl]

/-- A draft is left behind by a fault only: where the last step is not refused it is taken back. -/
theorem isKept_of_step {p : Moment} {reason : String} (htree : fs.IsTree)
    (hlink : ¬DraftIsLink fs dir) (h : Later dir m ⟨fs, .begun⟩ p)
    (hstep : Step dir m p ⟨fs', .ended (.error reason)⟩) : IsKept fs fs' dir := by
  cases hdir : fs.isDirectory dir with
  | false => exact .inl (fileSystem_of_later hdir (h.tail (.inl hstep)))
  | true =>
  obtain ⟨l, hstat⟩ := FileSystem.exists_of_isDirectory hdir
  obtain ⟨k, w⟩ := FileSystem.exists_way hstat
  have occurs : Occurs fs dir l m p := Occurs.later htree w hlink .begun h
  cases hstep with
  | refuse =>
      cases occurs
      exact .inl rfl
  | discard => exact occurs.isKept_discard w

/-! ### Writing -/

/-- What becomes of writing the index of `m` in `dir`, and of any course of it on which the system
refuses a step. -/
structure Writes (fs : FileSystem) (dir : Path) (m : Metadata) (w : Written) : Prop where
  whole   : AllOrNothing fs dir m w.fileSystem w.attempt.trace.value
  course  : ∃ result, w.attempt.trace.value = answer dir result ∧
              ReflTransGen (Step dir m) ⟨fs, .begun⟩ ⟨w.fileSystem, .ended result⟩
  refused : ∀ fs' result, Later dir m ⟨fs, .begun⟩ ⟨fs', .ended result⟩ →
              AllOrNothing fs dir m fs' (answer dir result) ∨
                (∃ reason, answer dir result = .error (.persistFailed (path dir) reason)) ∧
                  IsLeft fs fs' dir m
  cleared : ∀ p fs' reason, Later dir m ⟨fs, .begun⟩ p →
              Step dir m p ⟨fs', .ended (.error reason)⟩ → IsKept fs fs' dir

/-- **Writing an index** is all or nothing, whatever step is refused, but for a draft that the
system refuses to take back. -/
theorem write_spec (fs : FileSystem) (dir : Path) (m : Metadata) (htree : fs.IsTree)
    (hlink : ¬DraftIsLink fs dir) : Writes fs dir m (write fs dir m) where
  whole := by
    rw [fileSystem_write, value_write]
    cases hstore : (store fs dir m).2 with
    | error reason => exact .kept (kept_of_error hlink hstore).1
    | ok =>
        obtain ⟨l, stored⟩ := exists_isStored htree hlink hstore
        exact .stored stored
  course := ⟨(store fs dir m).2, value_write fs dir m, steps_store fs dir m⟩
  refused fs' result h := by
    cases result with
    | error reason =>
        rcases isKept_or_isLeft htree hlink h with kept | left
        · exact .inl (.kept kept)
        · exact .inr ⟨⟨reason, rfl⟩, left⟩
    | ok =>
        have hstore := store_of_later h
        obtain ⟨l, stored⟩ := exists_isStored (m := m) htree hlink (by rw [hstore])
        rw [hstore] at stored
        exact .inl (.stored stored)
  cleared p fs' reason h hstep := isKept_of_step htree hlink h hstep

/-- By every path to its directory the link is replaced. -/
theorem isStored_linkedIndex (m : Metadata)
    (hstat : linkedIndex.stat dir = .ok ([Utf8.ofString "r"], .directory))
    (hshort : (draftPath dir).bytes.length < FileSystem.maxPath) :
    (write linkedIndex dir m).attempt.trace.value = .ok () ∧
      IsStored linkedIndex (write linkedIndex dir m).fileSystem dir m [Utf8.ofString "r"] := by
  obtain ⟨k, w⟩ := FileSystem.exists_way hstat
  have hdir : linkedIndex.isDirectory dir = true := by rw [FileSystem.isDirectory, hstat]
  have hdraft : DraftIsFile linkedIndex [Utf8.ofString "r"] := by
    intro e he
    have hnone : linkedIndex.get? ([Utf8.ofString "r"] ++ [draftName]) = none := by decide
    cases hnone.symm.trans he
  have hindex : linkedIndex.get? ([Utf8.ofString "r"] ++ [indexName]) ≠ some .directory := by
    decide
  rw [value_write, fileSystem_write, store_moved hdir w hdraft hshort hindex]
  exact ⟨rfl, isStored_moved isTree_linkedIndex w hdraft hshort hindex⟩

theorem write_spec_linkedIndex :
    linkedIndex.IsTree ∧ ¬DraftIsLink linkedIndex (.ofString "/r") ∧
      Writes linkedIndex (.ofString "/r") .empty (write linkedIndex (.ofString "/r") .empty) ∧
      ∃ l, IsStored linkedIndex (write linkedIndex (.ofString "/r") .empty).fileSystem
        (.ofString "/r") .empty l := by
  have hlink := not_draftIsLink_linkedIndex stat_linkedIndex
  have hwrites := write_spec linkedIndex (.ofString "/r") .empty isTree_linkedIndex hlink
  refine ⟨isTree_linkedIndex, hlink, hwrites, ?_⟩
  have hwhole := hwrites.whole
  rw [(isStored_linkedIndex .empty stat_linkedIndex (by decide)).1] at hwhole
  cases hwhole with
  | stored stored => exact ⟨_, stored⟩

/-! ### What is not read back and what is not taken back -/

/-- A directory `r` with a draft that was left there. -/
def staleDraft : FileSystem :=
  (FileSystem.empty.insert [Utf8.ofString "r"] .directory).insert
    ([Utf8.ofString "r"] ++ [draftName]) (.file (.data [0x78] 0))

theorem isTree_staleDraft : staleDraft.IsTree :=
  (FileSystem.isTree_empty.insert (l := []) rfl (by decide) (by decide)).insert rfl
    isName_draftName (by decide)

theorem resolve_staleDraft (purpose : Purpose) :
    staleDraft.resolve purpose (draftPath (.ofString "/r")) =
      .ok (.entry [Utf8.ofString "r", draftName] (.file (.data [0x78] 0))) := by
  cases purpose <;> decide

theorem not_draftIsLink_staleDraft : ¬DraftIsLink staleDraft (.ofString "/r") := by
  rintro ⟨y, t, hlink⟩
  cases (resolve_staleDraft .lookAtLink).symm.trans hlink

/-- The text begins with an `r`. -/
theorem exists_text_eq (m : Metadata) : ∃ bytes, Utf8.ofString (text m) = 0x72 :: bytes := by
  have hrender : ∃ cs, render m = 'r' :: cs := ⟨_, rfl⟩
  obtain ⟨cs, hcs⟩ := hrender
  rw [text, hcs, Utf8.ofString, String.toList_ofList]
  exact ⟨_, rfl⟩

/-- The draft is written, but the system refuses to rename it and then to remove it. -/
theorem later_staleDraft (m : Metadata) (reason : String) :
    Later (.ofString "/r") m ⟨staleDraft, .begun⟩
      ⟨staleDraft.insert [Utf8.ofString "r", draftName] (.file (contents m)),
        .ended (.error reason)⟩ := by
  have hsize : 0 < textSize m := by
    obtain ⟨bytes, hbytes⟩ := exists_text_eq m
    rw [textSize, hbytes]
    exact Nat.succ_pos _
  have hcreate : Later (.ofString "/r") m ⟨staleDraft, .begun⟩ _ :=
    .single (.inl (.create (by decide) (.file (resolve_staleDraft .make))))
  have hextend := hcreate.tail (.inl (.extend hsize le_rfl))
  rw [FileSystem.insert_insert, part_textSize] at hextend
  exact (hextend.tail (.inr (.brokenOff reason))).tail (.inr (.left reason))

/-- An index that is written through the link that it replaces cannot be read back from there, and a
draft that is not taken back is neither what it was nor gone. -/
theorem read_through_link_and_left_draft :
    (linkedIndex.IsTree ∧ ¬DraftIsLink linkedIndex (.ofString "/r/metadata.yaml") ∧
      (write linkedIndex (.ofString "/r/metadata.yaml") .empty).attempt.trace.value = .ok () ∧
      read (write linkedIndex (.ofString "/r/metadata.yaml") .empty).fileSystem
        (.ofString "/r/metadata.yaml") = .error (.io .notADirectory)) ∧
      staleDraft.IsTree ∧ ¬DraftIsLink staleDraft (.ofString "/r") ∧
      ∃ fs', Later (.ofString "/r") .empty ⟨staleDraft, .begun⟩
          ⟨fs', .ended (.error "Permission denied (os error 13)")⟩ ∧
        staleDraft.get? [Utf8.ofString "r", draftName] = some (.file (.data [0x78] 0)) ∧
        fs'.get? [Utf8.ofString "r", draftName] = some (.file (contents .empty)) ∧
        contents .empty ≠ .data [0x78] 0 := by
  have hstat : linkedIndex.stat (.ofString "/r/metadata.yaml") =
      .ok ([Utf8.ofString "r"], .directory) := by decide
  obtain ⟨hvalue, stored⟩ := isStored_linkedIndex .empty hstat (by decide)
  -- Without the link that is replaced, the path leads nowhere.
  have hread := stored.read
  rw [if_neg (by decide)] at hread
  refine ⟨⟨isTree_linkedIndex, not_draftIsLink_linkedIndex hstat, hvalue, hread⟩,
    isTree_staleDraft, not_draftIsLink_staleDraft, _, later_staleDraft .empty _, by decide, ?_, ?_⟩
  · rw [FileSystem.get?_insert (by simp), if_pos rfl]
  · obtain ⟨bytes, hbytes⟩ := exists_text_eq .empty
    rw [contents, Contents.ofText, hbytes]
    simp

end RecordingIndex.Index

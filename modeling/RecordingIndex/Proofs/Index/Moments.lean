import Mathlib.Logic.Relation
import RecordingIndex.Proofs.Index.Frame

/-!
# Proofs — Index — the moments of storing

Storing is one function, but a reader may look at any moment of it: while the draft is written piece
by piece, before and after it is renamed, while it is taken back.  `Step` makes these moments from
one another, and `Fault` the ones after something went wrong on the way.  The steps without faults
end in what `store` leaves, and in nothing else (`steps_store`, `eq_store_of_steps`).

At every moment, faults or not, the place of the index holds what it held before or the whole text,
and once it holds the whole text it goes on to (`moments_store`).
-/

namespace RecordingIndex.Index

open Relation (ReflTransGen)

variable {fs fs' : FileSystem} {dir : Path} {m : Metadata} {l place x : Location} {k n : Nat}

/-! ### The text piece by piece -/

/-- The number of bytes of the text. -/
def textSize (m : Metadata) : Nat := (Utf8.ofString (text m)).length

/-- The first bytes of the text, as a file. -/
def part (m : Metadata) (n : Nat) : Contents := .data ((Utf8.ofString (text m)).take n) 0

@[simp] theorem part_textSize (m : Metadata) : part m (textSize m) = contents m := by
  rw [part, textSize, List.take_length]
  rfl

/-! ### Moments -/

/-- How far storing has come. -/
inductive Point where
  | begun
  | drafting (place : Location) (written : Nat)
  | broken (reason : String)
  | ended (result : Except String Unit)

/-- What there is at a moment of storing. -/
structure Moment where
  fileSystem : FileSystem
  point      : Point

/-- One step of storing: `dir` is looked at, the draft is opened and emptied, it grows by some
bytes, it is renamed once it is whole, or it is taken back because a step failed. -/
inductive Step (dir : Path) (m : Metadata) : Moment → Moment → Prop where
  | refuse {fs : FileSystem}
      (missing : fs.isDirectory dir = false) :
      Step dir m ⟨fs, .begun⟩ ⟨fs, .ended (.error "not a directory")⟩
  | fail {fs : FileSystem} {e : FileError}
      (directory : fs.isDirectory dir = true)
      (failed : fs.write (draftPath dir) (part m 0) = .error e) :
      Step dir m ⟨fs, .begun⟩ ⟨fs, .broken e.message⟩
  | create {fs : FileSystem} {place : Location}
      (directory : fs.isDirectory dir = true) (opened : fs.Holds (draftPath dir) place) :
      Step dir m ⟨fs, .begun⟩ ⟨fs.insert place (.file (part m 0)), .drafting place 0⟩
  | extend {fs : FileSystem} {place : Location} {n k : Nat}
      (more : n < k) (within : k ≤ textSize m) :
      Step dir m ⟨fs, .drafting place n⟩ ⟨fs.insert place (.file (part m k)), .drafting place k⟩
  | rename {fs fs' : FileSystem} {place : Location}
      (renamed : fs.rename (draftPath dir) (path dir) = .ok fs') :
      Step dir m ⟨fs, .drafting place (textSize m)⟩ ⟨fs', .ended (.ok ())⟩
  | remain {fs : FileSystem} {place : Location} {e : FileError}
      (failed : fs.rename (draftPath dir) (path dir) = .error e) :
      Step dir m ⟨fs, .drafting place (textSize m)⟩ ⟨fs, .broken e.message⟩
  | discard {fs : FileSystem} {reason : String} :
      Step dir m ⟨fs, .broken reason⟩ ⟨discard fs (draftPath dir), .ended (.error reason)⟩

/-- What may go wrong between the steps: the draft cannot be opened, its writing or renaming breaks
off, or it cannot be taken back. -/
inductive Fault (dir : Path) : Moment → Moment → Prop where
  | unopened {fs : FileSystem}
      (directory : fs.isDirectory dir = true) (reason : String) :
      Fault dir ⟨fs, .begun⟩ ⟨fs, .broken reason⟩
  | brokenOff {fs : FileSystem} {place : Location} {n : Nat} (reason : String) :
      Fault dir ⟨fs, .drafting place n⟩ ⟨fs, .broken reason⟩
  | left {fs : FileSystem} (reason : String) :
      Fault dir ⟨fs, .broken reason⟩ ⟨fs, .ended (.error reason)⟩

/-- A moment of storing and a later one. -/
def Later (dir : Path) (m : Metadata) : Moment → Moment → Prop :=
  ReflTransGen fun p q => Step dir m p q ∨ Fault dir p q

/-! ### The steps are those of `store` -/

/-- Whether a file can be written depends on its path alone. -/
theorem write_error {p : Path} {c : Contents} {e : FileError} (h : fs.write p c = .error e)
    (c' : Contents) : fs.write p c' = .error e := by
  rw [FileSystem.write] at h ⊢
  split at h
  · cases h
  · exact h
  · cases h
  · exact h

/-- **Steps without faults** lead to what `store` leaves. -/
theorem steps_store (fs : FileSystem) (dir : Path) (m : Metadata) :
    ReflTransGen (Step dir m) ⟨fs, .begun⟩
      ⟨(store fs dir m).1, .ended (store fs dir m).2⟩ := by
  cases directory : fs.isDirectory dir with
  | false =>
      rw [store, if_pos (by simp [directory])]
      exact .single (.refuse directory)
  | true =>
  cases hwrite : fs.write (draftPath dir) (contents m) with
  | error e =>
      rw [store, if_neg (by simp [directory]), hwrite]
      exact (ReflTransGen.single (.fail directory (write_error hwrite _))).tail .discard
  | ok fs' =>
  obtain ⟨place, opened, rfl⟩ := FileSystem.exists_place_of_write hwrite
  have hdrafted : ReflTransGen (Step dir m) ⟨fs, .begun⟩
      ⟨fs.insert place (.file (contents m)), .drafting place (textSize m)⟩ := by
    have hcreate : ReflTransGen (Step dir m) ⟨fs, .begun⟩ _ := .single (.create directory opened)
    rcases Nat.eq_zero_or_pos (textSize m) with hzero | hpos
    · rw [← part_textSize, hzero]
      exact hcreate
    · have hextend := hcreate.tail (.extend hpos le_rfl)
      rwa [FileSystem.insert_insert, part_textSize] at hextend
  cases hrename : (fs.insert place (.file (contents m))).rename (draftPath dir) (path dir) with
  | error e =>
      rw [store_of_rename_error directory hwrite hrename]
      exact (hdrafted.tail (.remain hrename)).tail .discard
  | ok fs'' =>
      rw [store_of_rename directory hwrite hrename]
      exact hdrafted.tail (.rename hrename)

/-- What a moment says of `store`, if no fault came before it. -/
def Foretells (fs : FileSystem) (dir : Path) (m : Metadata) (p : Moment) : Prop :=
  match p.point with
  | .begun            => p.fileSystem = fs
  | .drafting place n =>
      fs.isDirectory dir = true ∧ fs.Holds (draftPath dir) place ∧
        p.fileSystem = fs.insert place (.file (part m n))
  | .broken reason    => store fs dir m = (discard p.fileSystem (draftPath dir), .error reason)
  | .ended result     => store fs dir m = (p.fileSystem, result)

theorem Foretells.step {p q : Moment} (h : Foretells fs dir m p) (hstep : Step dir m p q) :
    Foretells fs dir m q := by
  cases hstep with
  | refuse missing =>
      obtain rfl : _ = fs := h
      show store _ dir m = _
      rw [store, if_pos (by simp [missing])]
  | fail directory failed =>
      obtain rfl : _ = fs := h
      show store _ dir m = _
      rw [store, if_neg (by simp [directory]), write_error failed (contents m)]
  | create directory opened =>
      obtain rfl : _ = fs := h
      exact ⟨directory, opened, rfl⟩
  | extend more within =>
      obtain ⟨directory, opened, hfs⟩ := h
      refine ⟨directory, opened, ?_⟩
      dsimp only at hfs ⊢
      rw [hfs, FileSystem.insert_insert]
  | rename renamed =>
      obtain ⟨directory, opened, hfs⟩ := h
      dsimp only at hfs
      rw [part_textSize] at hfs
      exact store_of_rename directory (opened.write _) (hfs ▸ renamed)
  | remain failed =>
      obtain ⟨directory, opened, hfs⟩ := h
      dsimp only at hfs
      rw [part_textSize] at hfs
      show store fs dir m = (discard _ _, _)
      rw [store_of_rename_error directory (opened.write _) (hfs ▸ failed), hfs]
  | discard => exact h

/-- They lead to nothing else. -/
theorem eq_store_of_steps {result : Except String Unit}
    (h : ReflTransGen (Step dir m) ⟨fs, .begun⟩ ⟨fs', .ended result⟩) :
    (fs', result) = store fs dir m := by
  have hall : ∀ p, ReflTransGen (Step dir m) ⟨fs, .begun⟩ p → Foretells fs dir m p := by
    intro p hp
    induction hp with
    | refl => rfl
    | tail _ hstep ih => exact ih.step hstep
  exact (hall _ h).symm

/-! ### Every moment -/

/-- What a moment can be when storing begins in the directory at `l`, where no link stands in the
place of the draft. -/
inductive Occurs (fs : FileSystem) (dir : Path) (l : Location) (m : Metadata) : Moment → Prop where
  | begun : Occurs fs dir l m ⟨fs, .begun⟩
  | drafting {n : Nat} (draft : fs.FileOrFree (l ++ [draftName]))
      (short : (draftPath dir).bytes.length < FileSystem.maxPath) (within : n ≤ textSize m) :
      Occurs fs dir l m ⟨fs.insert (l ++ [draftName]) (.file (part m n)),
        .drafting (l ++ [draftName]) n⟩
  | unopened (reason : String) : Occurs fs dir l m ⟨fs, .broken reason⟩
  | brokenOff {n : Nat} (reason : String) (draft : fs.FileOrFree (l ++ [draftName]))
      (short : (draftPath dir).bytes.length < FileSystem.maxPath) (within : n ≤ textSize m) :
      Occurs fs dir l m ⟨fs.insert (l ++ [draftName]) (.file (part m n)), .broken reason⟩
  | kept {fs' : FileSystem} (reason : String) (kept : IsKept fs fs' dir) :
      Occurs fs dir l m ⟨fs', .ended (.error reason)⟩
  | left {n : Nat} (reason : String) (within : n ≤ textSize m) :
      Occurs fs dir l m ⟨fs.insert (l ++ [draftName]) (.file (part m n)), .ended (.error reason)⟩
  | stored {fs' : FileSystem}
      (index : fs'.get? (l ++ [indexName]) = some (.file (contents m)))
      (same : ∀ x, x ≠ l ++ [indexName] → x ≠ l ++ [draftName] → fs'.get? x = fs.get? x) :
      Occurs fs dir l m ⟨fs', .ended (.ok ())⟩

theorem get?_insert_draft {c : Contents} (hx : x ≠ l ++ [draftName]) :
    (fs.insert (l ++ [draftName]) (.file c)).get? x = fs.get? x := by
  rw [FileSystem.get?_insert (by simp), if_neg hx]

/-- Taking the draft back leaves it as it was or absent. -/
theorem Occurs.isKept_discard {reason : String} (w : fs.Way dir l k)
    (h : Occurs fs dir l m ⟨fs', .broken reason⟩) :
    IsKept fs (discard fs' (draftPath dir)) dir := by
  cases h with
  | unopened => exact Index.isKept_discard w
  | brokenOff _ draft short =>
      rw [discard_of_file (w.insert draft) (draft.get?_insert_self _) short]
      exact isKept_withdrawn w _

section

variable {p q : Moment} (htree : fs.IsTree) (w : fs.Way dir l k) (hlink : ¬DraftIsLink fs dir)

include htree w hlink

/-- A step leads from what can be to what can be. -/
theorem Occurs.step (h : Occurs fs dir l m p) (hstep : Step dir m p q) : Occurs fs dir l m q := by
  cases hstep with
  | refuse missing =>
      cases h
      exact .kept _ (.inl rfl)
  | fail directory failed =>
      cases h
      exact .unopened _
  | create directory opened =>
      cases h
      rcases (eq_or_linksTo_of_holds w opened).2 with rfl | hlinks
      · exact .drafting opened.fileOrFree (short_of_holds w opened) (Nat.zero_le _)
      · exact absurd hlinks.1 hlink
  | extend more within =>
      cases h with
      | drafting draft short =>
          rw [FileSystem.insert_insert]
          exact .drafting draft short within
  | remain failed =>
      cases h with
      | drafting draft short within => exact .brokenOff _ draft short within
  | discard => exact .kept _ (h.isKept_discard w)
  | rename renamed =>
      cases h with
      | drafting draft =>
          rw [part_textSize] at renamed
          have hplace : (fs.insert (l ++ [draftName]) (.file (contents m))).get?
              (l ++ [draftName]) = some (.file (contents m)) := draft.get?_insert_self _
          obtain ⟨e, hentry, hget⟩ := get?_rename_draft (w.insert draft)
            (isTree_drafted htree w draft) (by simp [hplace]) renamed
          cases hplace.symm.trans hentry
          refine .stored (by rw [hget, if_pos rfl]) fun x hxi hxd => ?_
          rw [hget, if_neg hxi, if_neg hxd, get?_insert_draft hxd]

omit htree w hlink in
/-- So does a fault. -/
theorem Occurs.fault (h : Occurs fs dir l m p) (hfault : Fault dir p q) :
    Occurs fs dir l m q := by
  cases hfault with
  | unopened directory reason =>
      cases h
      exact .unopened reason
  | brokenOff reason =>
      cases h with
      | drafting draft short within => exact .brokenOff reason draft short within
  | left reason =>
      cases h with
      | unopened => exact .kept reason (.inl rfl)
      | brokenOff _ _ _ within => exact .left reason within

theorem Occurs.later (h : Occurs fs dir l m p) (hlater : Later dir m p q) :
    Occurs fs dir l m q := by
  induction hlater with
  | refl => exact h
  | tail _ hnext ih => exact hnext.elim (ih.step htree w hlink) ih.fault

end

section

variable {p : Moment} (w : fs.Way dir l k) (h : Occurs fs dir l m p)

include w h

/-- Either the index is as it was or the storing has ended with the whole text there. -/
theorem Occurs.index :
    p.fileSystem.get? (l ++ [indexName]) = fs.get? (l ++ [indexName]) ∨
      p.point = .ended (.ok ()) ∧
        p.fileSystem.get? (l ++ [indexName]) = some (.file (contents m)) := by
  have hne : l ++ [indexName] ≠ l ++ [draftName] := by simp [draftName_ne_indexName.symm]
  cases h with
  | begun | unopened => exact .inl rfl
  | drafting | brokenOff | left => exact .inl (get?_insert_draft hne)
  | kept _ kept => exact .inl (kept.get?_eq w hne)
  | stored index => exact .inr ⟨rfl, index⟩

theorem Occurs.others (hxi : x ≠ l ++ [indexName]) (hxd : x ≠ l ++ [draftName]) :
    p.fileSystem.get? x = fs.get? x := by
  cases h with
  | begun | unopened => rfl
  | drafting | brokenOff | left => exact get?_insert_draft hxd
  | kept _ kept => exact kept.get?_eq w hxd
  | stored _ same => exact same x hxi hxd

end

/-- Nothing follows the end. -/
theorem Later.eq_of_ended {p q : Moment} {result : Except String Unit}
    (h : Later dir m p q) (hp : p.point = .ended result) : q = p := by
  rcases ReflTransGen.cases_head h with rfl | ⟨p', hstep | hfault, -⟩
  · rfl
  · cases hstep <;> cases hp
  · cases hfault <;> cases hp

/-- Where `dir` is no directory, storing ends before it changes anything. -/
theorem fileSystem_of_later {p : Moment} (hdir : fs.isDirectory dir = false)
    (h : Later dir m ⟨fs, .begun⟩ p) : p.fileSystem = fs := by
  rcases ReflTransGen.cases_head h with rfl | ⟨p', hstep | hfault, hlater⟩
  · rfl
  · cases hstep with
    | refuse => rw [Later.eq_of_ended hlater rfl]
    | fail directory | create directory => cases hdir.symm.trans directory
  · cases hfault with
    | unopened directory => cases hdir.symm.trans directory

/-- At a moment of storing the index of `m`, which began in `fs`: the place of the index holds what
it held or the whole text, and goes on to hold the whole text once it does; elsewhere, but in the
place of the draft, nothing is changed. -/
structure IsWhole (fs : FileSystem) (dir : Path) (m : Metadata) (p : Moment) : Prop where
  index  : ∀ l, fs.stat dir = .ok (l, .directory) →
             p.fileSystem.get? (l ++ [indexName]) = fs.get? (l ++ [indexName]) ∨
             p.fileSystem.get? (l ++ [indexName]) = some (.file (.ofText (text m)))
  stays  : ∀ l q, fs.stat dir = .ok (l, .directory) → Later dir m p q →
             p.fileSystem.get? (l ++ [indexName]) = some (.file (.ofText (text m))) →
             q.fileSystem.get? (l ++ [indexName]) = some (.file (.ofText (text m)))
  others : ∀ x, ¬IsOwnPlace fs dir x → p.fileSystem.get? x = fs.get? x

theorem isWhole_of_later {p : Moment} (htree : fs.IsTree) (hlink : ¬DraftIsLink fs dir)
    (h : Later dir m ⟨fs, .begun⟩ p) : IsWhole fs dir m p := by
  cases hdir : fs.isDirectory dir with
  | false =>
      have hnone : ∀ l, fs.stat dir ≠ .ok (l, .directory) := by
        intro l hl
        simp [FileSystem.isDirectory, hl] at hdir
      exact ⟨fun l hl => absurd hl (hnone l), fun l _ hl => absurd hl (hnone l),
        fun x _ => by rw [fileSystem_of_later hdir h]⟩
  | true =>
  obtain ⟨l, hstat⟩ := FileSystem.exists_of_isDirectory hdir
  obtain ⟨k, w⟩ := FileSystem.exists_way hstat
  have occurs : Occurs fs dir l m p := Occurs.later htree w hlink .begun h
  constructor
  case index =>
    intro l' hl'
    cases hstat.symm.trans hl'
    exact (occurs.index w).imp_right And.right
  case stays =>
    intro l' q hl' hlater hwhole
    cases hstat.symm.trans hl'
    rcases occurs.index w with hbefore | ⟨hended, -⟩
    · -- The index was the same text before.
      have hsame : fs.get? (l ++ [indexName]) = some (.file (contents m)) := hbefore ▸ hwhole
      rcases (occurs.later htree w hlink hlater).index w with hq | ⟨-, hq⟩
      · exact hq.trans hsame
      · exact hq
    · rwa [Later.eq_of_ended hlater hended]
  case others =>
    intro x hx
    exact occurs.others w (fun hxi => hx ⟨l, hstat, .inl hxi⟩) fun hxd => hx ⟨l, hstat, .inr hxd⟩

/-- **Every moment of storing**, whatever goes wrong on the way, finds the index as it was or whole;
the steps are those of `store`. -/
theorem moments_store (fs : FileSystem) (dir : Path) (m : Metadata) (htree : fs.IsTree)
    (hlink : ¬DraftIsLink fs dir) :
    ReflTransGen (Step dir m) ⟨fs, .begun⟩ ⟨(store fs dir m).1, .ended (store fs dir m).2⟩ ∧
      (∀ fs' result, ReflTransGen (Step dir m) ⟨fs, .begun⟩ ⟨fs', .ended result⟩ →
        (fs', result) = store fs dir m) ∧
      ∀ p, Later dir m ⟨fs, .begun⟩ p → IsWhole fs dir m p :=
  ⟨steps_store fs dir m, fun _ _ h => eq_store_of_steps h,
    fun _ h => isWhole_of_later htree hlink h⟩

/-! ### A link in the place of the index -/

/-- A directory `r` in which the index is a link to the directory itself. -/
def linkedIndex : FileSystem :=
  (FileSystem.empty.insert [Utf8.ofString "r"] .directory).insert
    ([Utf8.ofString "r"] ++ [indexName]) (.link (.ofString "."))

theorem isTree_linkedIndex : linkedIndex.IsTree :=
  (FileSystem.isTree_empty.insert (l := []) rfl (by decide) (by decide)).insert rfl
    isName_indexName (by decide)

theorem stat_linkedIndex :
    linkedIndex.stat (.ofString "/r") = .ok ([Utf8.ofString "r"], .directory) := by
  decide

theorem not_draftIsLink_linkedIndex
    (h : linkedIndex.stat dir = .ok ([Utf8.ofString "r"], .directory)) :
    ¬DraftIsLink linkedIndex dir := by
  rintro ⟨y, t, hlink⟩
  obtain ⟨k, w⟩ := FileSystem.exists_way h
  have hnone : linkedIndex.get? ([Utf8.ofString "r"] ++ [draftName]) = none := by decide
  cases hnone.symm.trans (entry_draft w hlink).2

theorem moments_store_linkedIndex :
    linkedIndex.IsTree ∧ ¬DraftIsLink linkedIndex (.ofString "/r") ∧
      ∀ p, Later (.ofString "/r") .empty ⟨linkedIndex, .begun⟩ p →
        IsWhole linkedIndex (.ofString "/r") .empty p :=
  ⟨isTree_linkedIndex, not_draftIsLink_linkedIndex stat_linkedIndex,
    (moments_store linkedIndex (.ofString "/r") .empty isTree_linkedIndex
      (not_draftIsLink_linkedIndex stat_linkedIndex)).2.2⟩

end RecordingIndex.Index

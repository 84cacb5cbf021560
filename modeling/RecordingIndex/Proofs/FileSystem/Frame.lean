import RecordingIndex.Proofs.FileSystem.Change
import RecordingIndex.Proofs.Text.Utf8

/-!
# Proofs — FileSystem — what a change leaves as it is

A change by paths happens at the places that the paths lead to and nowhere else: writing at one
where nothing but a file stands (`exists_place_of_write`), removing a file where that stands
(`exists_place_of_removeFile`), and renaming what is no directory at two (`IsTree.get?_rename`).  So
the way to a directory is still there once a file is written somewhere (`Way.insert`), and what is
written under a path is read there (`contents_of_write`).
-/

namespace RecordingIndex.FileSystem

variable {fs fs' : FileSystem} {dir p q : Path} {l s place x : Location} {k : Nat} {n : Bytes}
  {c c' : Contents} {e : Entry} {purpose : Purpose}

/-- Nothing but a file stands at the location. -/
def FileOrFree (fs : FileSystem) (l : Location) : Prop :=
  ∀ e, fs.get? l = some e → ∃ c, e = .file c

theorem FileOrFree.ne_nil (h : fs.FileOrFree l) : l ≠ [] := by
  rintro rfl
  obtain ⟨c, hc⟩ := h .directory rfl
  cases hc

theorem FileOrFree.get?_insert_self (h : fs.FileOrFree l) (e : Entry) :
    (fs.insert l e).get? l = some e := by
  rw [get?_insert h.ne_nil, if_pos rfl]

/-- Where a file is put, directories and links stay. -/
theorem FileOrFree.get?_insert_of_ne_file (h : fs.FileOrFree l) (hx : fs.get? x = some e)
    (he : ∀ c, e ≠ .file c) (e' : Entry) : (fs.insert l e').get? x = some e := by
  rw [get?_insert h.ne_nil, if_neg ?_, hx]
  rintro rfl
  obtain ⟨c, hc⟩ := h e hx
  exact he c hc

/-! ### Writing -/

/-- The path leads to a file, or to a free name where one can be made. -/
inductive Holds (fs : FileSystem) (p : Path) : Location → Prop where
  | file {l : Location} {c : Contents} (found : fs.resolve .make p = .ok (.entry l (.file c))) :
      Holds fs p l
  | free {l : Location} (found : fs.resolve .make p = .ok (.free l)) : Holds fs p l

theorem Holds.fileOrFree (h : fs.Holds p place) : fs.FileOrFree place := by
  intro e he
  cases h with
  | file found =>
      have hentry : fs.get? place = some (.file _) := lands_resolve found
      exact ⟨_, Option.some.inj (he.symm.trans hentry)⟩
  | free found =>
      obtain ⟨d, n, -, -, -, hnone⟩ := lands_resolve found
      rw [hnone] at he
      cases he

theorem Holds.write (h : fs.Holds p place) (c : Contents) :
    fs.write p c = .ok (fs.insert place (.file c)) := by
  rw [FileSystem.write]
  cases h with
  | file found | free found => rw [found]

/-- **Writing** happens at one place, where nothing but a file stands. -/
theorem exists_place_of_write (h : fs.write p c = .ok fs') :
    ∃ place, fs.Holds p place ∧ fs' = fs.insert place (.file c) := by
  rw [FileSystem.write] at h
  split at h
  · next found =>
      cases h
      exact ⟨_, .file found, rfl⟩
  · cases h
  · next found =>
      cases h
      exact ⟨_, .free found, rfl⟩
  · cases h

/-- A walk that finds where a file is to be made finds it there once it is made. -/
theorem walk_insert_file {found : Found} (hplace : fs.FileOrFree place) :
    ∀ {k : Nat} {steps : List Path.Step} {here : Location},
      (found = .free place ∨ ∃ c', found = .entry place (.file c')) →
        fs.walk .make k here steps = .ok found →
          (fs.insert place (.file c)).walk .look k here steps = .ok (.entry place (.file c))
  | k, [],        here, hfound, h => by
      rw [walk_eq, walkWith] at h ⊢
      split at h
      case h_2 => cases h
      cases h
      rcases hfound with hfound | ⟨c', hfound⟩
      · cases hfound
      · cases hfound
        rw [hplace.get?_insert_self]
  | k, s :: rest, here, hfound, h => by
      have hend : (fs.insert place (.file c)).walk .look k place [] =
          .ok (.entry place (.file c)) := by
        rw [walk_eq, walkWith, hplace.get?_insert_self]
      by_cases dir : fs.get? here = some .directory
      case neg => cases s <;> simp [walk_eq, walkWith, dir] at h
      have dir' : (fs.insert place (.file c)).get? here = some .directory :=
        hplace.get?_insert_of_ne_file dir (by simp) _
      cases step : aside? here s with
      | some next =>
          rw [walk_aside step, if_pos dir] at h
          rw [walk_aside step, if_pos dir']
          exact walk_insert_file hplace hfound h
      | none =>
      cases s with
      | up | stay | close => cases step
      | enter n =>
      by_cases length : n.length ≤ maxName
      case neg => simp [walk_eq, walkWith, dir, Nat.lt_of_not_le length] at h
      by_cases make : rest = [.close]
      case pos => simp [walk_eq, walkWith, dir, Nat.not_lt.mpr length, make] at h
      rw [walk_enter dir length (by simp [make])] at h
      rw [walk_enter dir' length (by simp)]
      cases entry : fs.get? (here ++ [n]) with
      | none =>
          simp only [entry] at h
          split at h
          case isFalse => cases h
          next hrest =>
          cases h
          obtain rfl : here ++ [n] = place := by simpa using hfound
          rw [hplace.get?_insert_self, hrest]
          exact hend
      | some e =>
      simp only [entry] at h
      cases e with
      | directory =>
          rw [hplace.get?_insert_of_ne_file entry (by simp)]
          exact walk_insert_file hplace hfound h
      | file c' =>
          -- A walk that has met a file ends there.
          have hrest : rest = [] := by
            cases rest with
            | nil => rfl
            | cons s rest => simp [walk_file entry] at h
          subst hrest
          rw [walk_eq, walkWith, entry] at h
          cases h
          obtain rfl : here ++ [n] = place := by simpa using hfound
          rw [hplace.get?_insert_self]
          exact hend
      | link t =>
          rw [hplace.get?_insert_of_ne_file entry (by simp)]
          simp only [reduceCtorEq, and_false, if_false] at h ⊢
          cases k with
          | zero => cases h
          | succ k => exact walk_insert_file (k := k) hplace hfound h
termination_by k steps => (k, steps.length)

/-- **What is written** to a path is found under the path, links followed. -/
theorem contents_of_write (h : fs.write p c = .ok fs') : fs'.contents p = .ok c := by
  obtain ⟨place, holds, rfl⟩ := exists_place_of_write h
  obtain ⟨found, hfound, hresolve⟩ : ∃ found, (found = .free place ∨
      ∃ c', found = .entry place (.file c')) ∧ fs.resolve .make p = .ok found := by
    cases holds with
    | file found => exact ⟨_, .inr ⟨_, rfl⟩, found⟩
    | free found => exact ⟨_, .inl rfl, found⟩
  have hlook : (fs.insert place (.file c)).resolve .look p = .ok (.entry place (.file c)) := by
    rw [resolve] at hresolve ⊢
    split at hresolve
    · cases hresolve
    split at hresolve
    · cases hresolve
    split at hresolve
    · cases hresolve
    rw [if_neg ‹_›, if_neg ‹_›, if_neg ‹_›, cwd_insert]
    exact walk_insert_file holds.fileOrFree hfound hresolve
  rw [contents, stat, hlook]

theorem readText_of_write {text : String} (h : fs.write p (.ofText text) = .ok fs') :
    fs'.readText p = .ok text := by
  rw [readText, contents_of_write h]
  simp [bind, Except.bind, Contents.ofText, Contents.bytes, Utf8.toString?_ofString]

/-- What is put in place of what was just put there. -/
theorem insert_insert (fs : FileSystem) (l : Location) (e e' : Entry) :
    (fs.insert l e).insert l e' = fs.insert l e' := by
  refine eq_of_entries ?_ (by simp) (by simp)
  have hmem : l ∈ (fs.insert l e).entries.map Prod.fst :=
    List.mem_map_of_mem (f := Prod.fst) (mem_insert.mpr (.inl rfl))
  have hreplace : ((fs.insert l e).insert l e').entries =
      (fs.insert l e).entries.map fun x => if x.1 = l then (l, e') else x := by
    rw [insert, dif_pos hmem]
  rw [hreplace]
  by_cases hl : l ∈ fs.entries.map Prod.fst
  · rw [insert, dif_pos hl, insert, dif_pos hl, List.map_map]
    refine List.map_congr_left fun x _ => ?_
    by_cases hx : x.1 = l <;> simp [hx]
  · rw [insert, dif_neg hl, insert, dif_neg hl, List.map_append]
    have hkeep : fs.entries.map (fun x => if x.1 = l then (l, e') else x) = fs.entries := by
      refine (List.map_congr_left fun x hx => ?_).trans (List.map_id _)
      have hxl : x.1 ≠ l := fun hxl => hl (hxl ▸ List.mem_map_of_mem (f := Prod.fst) hx)
      exact if_neg hxl
    rw [hkeep]
    simp

/-! ### The way to a directory -/

/-- A way stays one when a file is written. -/
theorem Way.insert (w : fs.Way dir l k) (h : fs.FileOrFree place) :
    (fs.insert place (.file c)).Way dir l k :=
  w.mono (cwd_insert _ _ _) fun _ _ hx he => h.get?_insert_of_ne_file hx he _

section

variable (w : fs.Way dir l k) (hn : Path.IsName n) (hnul : 0 ∉ n) (hlen : n.length ≤ maxName)

include w hn hnul hlen

/-- Looking at what stands under a name in a directory, links included. -/
theorem Way.get?_of_lookAtLink (h : fs.resolve .lookAtLink (dir.child n) = .ok (.entry x e)) :
    x = l ++ [n] ∧ fs.get? (l ++ [n]) = some e := by
  rw [w.resolve_child hn hnul hlen] at h
  split at h
  · cases h
  cases hentry : fs.get? (l ++ [n]) with
  | none =>
      rw [underName_free hentry] at h
      cases h
  | some e' =>
      rw [underName_lookAtLink hentry] at h
      cases h
      exact ⟨rfl, rfl⟩

theorem Way.eq_of_free (h : fs.resolve .lookAtLink (dir.child n) = .ok (.free x)) :
    x = l ++ [n] ∧ fs.get? (l ++ [n]) = none := by
  rw [w.resolve_child hn hnul hlen] at h
  split at h
  · cases h
  cases hentry : fs.get? (l ++ [n]) with
  | none =>
      rw [underName_free hentry] at h
      cases h
      exact ⟨rfl, rfl⟩
  | some e' =>
      rw [underName_lookAtLink hentry] at h
      cases h

/-- No file is written under the name of a directory, and elsewhere only through a link. -/
theorem Way.holds_child (h : fs.Holds (dir.child n) place) :
    fs.get? (l ++ [n]) ≠ some .directory ∧
      (place = l ++ [n] ∨ ∃ t, fs.get? (l ++ [n]) = some (.link t)) := by
  have hresolve : fs.resolve .make (dir.child n) = fs.underName .make k l n := by
    have hchild : fs.resolve .make (dir.child n) = _ := w.resolve_child hn hnul hlen
    split at hchild
    · cases h with
      | file found | free found => cases hchild.symm.trans found
    · exact hchild
  cases hentry : fs.get? (l ++ [n]) with
  | none =>
      rw [underName_free hentry] at hresolve
      cases h with
      | file found => cases hresolve.symm.trans found
      | free found =>
          cases hresolve.symm.trans found
          exact ⟨by simp, .inl rfl⟩
  | some e =>
      cases e with
      | link t => exact ⟨by simp, .inr ⟨t, rfl⟩⟩
      | directory =>
          rw [underName_entry hentry (by simp)] at hresolve
          cases h with
          | file found | free found => cases hresolve.symm.trans found
      | file c =>
          rw [underName_entry hentry (by simp)] at hresolve
          cases h with
          | file found =>
              cases hresolve.symm.trans found
              exact ⟨by simp, .inl rfl⟩
          | free found => cases hresolve.symm.trans found

end

/-! ### Removing and renaming -/

/-- **Removing a file** happens where the file or link stands. -/
theorem exists_place_of_removeFile (h : fs.removeFile p = .ok fs') :
    ∃ l e, fs.resolve .lookAtLink p = .ok (.entry l e) ∧ e ≠ .directory ∧ fs' = fs.erase l := by
  rw [removeFile] at h
  split at h
  · cases h
  · next l e hne found =>
      cases h
      exact ⟨l, e, found, hne, rfl⟩
  · cases h
  · cases h

/-- **Renaming** what is no directory takes it away from its place and puts it where the other path
leads, in place of what is no directory either. -/
theorem IsTree.get?_rename (htree : fs.IsTree) (h : fs.rename p q = .ok fs')
    (hp : ∀ s, fs.resolve .lookAtLink p ≠ .ok (.entry s .directory)) :
    ∃ s e t, fs.resolve .lookAtLink p = .ok (.entry s e) ∧
      (fs.resolve .lookAtLink q = .ok (.free t) ∨
        ∃ e', fs.resolve .lookAtLink q = .ok (.entry t e')) ∧
      ∀ x, fs'.get? x = if x = t then some e else if x = s then none else fs.get? x := by
  rw [rename] at h
  cases source : fs.resolve .lookAtLink p with
  | error => rw [source] at h; cases h
  | ok here =>
  cases target : fs.resolve .lookAtLink q with
  | error => rw [source, target] at h; cases h
  | ok into =>
  simp only [source, target, bind, Except.bind] at h
  cases here with
  | free => cases h
  | entry s e =>
  have hs : fs.get? s = some e := lands_resolve source
  have he : e ≠ .directory := by
    rintro rfl
    exact hp s source
  cases into with
  | free t =>
      obtain ⟨-, -, -, -, -, hfree⟩ := lands_resolve target
      have ht : fs.get? t ≠ some .directory := by simp [hfree]
      dsimp only at h
      rw [if_neg fun hand : e = .directory ∧ s.isPrefixOf t = true => he hand.1] at h
      cases h
      exact ⟨s, e, t, rfl, .inl rfl, fun x => htree.get?_move_of_ne hs he ht⟩
  | entry t e' =>
      have hentry : fs.get? t = some e' := lands_resolve target
      dsimp only at h
      split at h
      -- Renaming to the same place changes nothing.
      · next hst =>
          subst hst
          cases h
          refine ⟨s, e, s, rfl, .inr ⟨e', rfl⟩, fun x => ?_⟩
          by_cases hx : x = s <;> simp [hx, hs]
      split at h
      · split at h <;> cases h
      next he' =>
      have ht : fs.get? t ≠ some .directory := by simpa [hentry] using he'
      cases h
      exact ⟨s, e, t, rfl, .inr ⟨e', rfl⟩, fun x => htree.get?_move_of_ne hs he ht⟩

end RecordingIndex.FileSystem

import RecordingIndex.FileSystem.Operations
import RecordingIndex.Proofs.List

/-!
# Proofs — FileSystem — the view of a file system

What stands where after `insert` and `eraseWhere`, said through `FileSystem.get?`, and how the
names in a directory are read off it (`mem_names`).
-/

namespace RecordingIndex.FileSystem

variable {fs : FileSystem} {l k : Location} {e : Entry} {n : Bytes} {p : Location → Bool}

@[simp] theorem get?_nil (fs : FileSystem) : fs.get? [] = some .directory := rfl

theorem get?_eq_some_iff (hl : l ≠ []) : fs.get? l = some e ↔ (l, e) ∈ fs.entries := by
  rw [get?, if_neg hl, Option.map_eq_some_iff]
  constructor
  · rintro ⟨x, hx, rfl⟩
    obtain ⟨hmem, rfl⟩ := (find?_eq_some_iff_of_nodup fs.distinct).mp hx
    exact hmem
  · intro hmem
    exact ⟨(l, e), (find?_eq_some_iff_of_nodup fs.distinct).mpr ⟨hmem, rfl⟩, rfl⟩

theorem isSome_get?_iff (hl : l ≠ []) : (fs.get? l).isSome ↔ l ∈ fs.entries.map Prod.fst := by
  simp [Option.isSome_iff_exists, get?_eq_some_iff hl]

theorem exists_of_isFile {q : Path} (h : fs.isFile q = true) :
    ∃ l c, fs.stat q = .ok (l, .file c) := by
  rw [isFile] at h
  split at h
  · next l c hstat => exact ⟨l, c, hstat⟩
  · cases h

theorem exists?_of_stat {q : Path} (h : fs.stat q = .ok (l, e)) : fs.exists? q = true := by
  rw [exists?, h]
  rfl

theorem exists_of_isDirectory {q : Path} (h : fs.isDirectory q = true) :
    ∃ l, fs.stat q = .ok (l, .directory) := by
  rw [isDirectory] at h
  split at h
  · next l hstat => exact ⟨l, hstat⟩
  · cases h

/-! ### Names -/

theorem dropLast_eq_and_getLast?_eq_iff {x : Location} :
    x.dropLast = l ∧ x.getLast? = some n ↔ x = l ++ [n] := by
  constructor
  · rintro ⟨rfl, h⟩
    exact (List.dropLast_append_getLast? n h).symm
  · rintro rfl
    simp

/-- **The names in a directory** are those under which something stands in it. -/
theorem mem_names : n ∈ fs.names l ↔ (fs.get? (l ++ [n])).isSome := by
  rw [isSome_get?_iff (by simp), names, List.mem_filterMap, List.mem_map]
  refine exists_congr fun x => and_congr_right ?_
  intro _
  rw [← dropLast_eq_and_getLast?_eq_iff]
  split <;> simp [*]

theorem nodup_names (fs : FileSystem) (l : Location) : (fs.names l).Nodup := by
  have h := List.pairwise_map.mp fs.distinct
  refine List.Pairwise.filterMap _ (fun x y hxy a ha b hb hab => hxy ?_) h
  subst hab
  simp only [Option.ite_none_right_eq_some] at ha hb
  rw [dropLast_eq_and_getLast?_eq_iff.mp ha, dropLast_eq_and_getLast?_eq_iff.mp hb]

theorem list_of_not_refused {q : Path} (hstat : fs.stat q = .ok (l, .directory))
    (h : fs.refusal? l = none) : fs.list q = .ok (fs.names l) := by
  simp only [list, hstat, h]

theorem list_of_refused {q : Path} {err : FileError} (hstat : fs.stat q = .ok (l, .directory))
    (h : fs.refusal? l = some err) : fs.list q = .error err := by
  simp only [list, hstat, h]

/-- What is listed is a directory that is not refused. -/
theorem exists_of_list {q : Path} {names : List Bytes} (h : fs.list q = .ok names) :
    ∃ l, fs.stat q = .ok (l, .directory) ∧ fs.refusal? l = none ∧ names = fs.names l := by
  rw [list] at h
  split at h
  · next l hstat =>
      split at h
      · cases h
      · next hrefusal => exact ⟨l, hstat, hrefusal, (Except.ok.inj h).symm⟩
  · cases h
  · cases h

/-! ### Changes -/

theorem mem_insert {x : Location × Entry} :
    x ∈ (fs.insert l e).entries ↔ x = (l, e) ∨ x.1 ≠ l ∧ x ∈ fs.entries := by
  rw [insert]
  split
  -- The entry takes the place of the one that stood there, or comes last.
  · next hmem =>
      obtain ⟨z, hz, hzl⟩ := List.mem_map.mp hmem
      rw [List.mem_map]
      constructor
      · rintro ⟨y, hy, rfl⟩
        by_cases hyl : y.1 = l <;> simp [hyl, hy]
      · rintro (rfl | ⟨hxl, hx⟩)
        · exact ⟨z, hz, if_pos hzl⟩
        · exact ⟨x, hx, if_neg hxl⟩
  · next hmem =>
      have hne : x ∈ fs.entries → x.1 ≠ l := fun hx hxl => hmem (hxl ▸ List.mem_map_of_mem hx)
      rw [List.mem_append, List.mem_singleton, or_comm]
      exact or_congr_right ⟨fun hx => ⟨hne hx, hx⟩, And.right⟩

theorem get?_insert (hl : l ≠ []) :
    (fs.insert l e).get? k = if k = l then some e else fs.get? k := by
  by_cases hk : k = []
  · rw [hk, if_neg (Ne.symm hl)]
    rfl
  refine Option.ext ?_
  intro f
  rw [get?_eq_some_iff hk, mem_insert]
  by_cases hkl : k = l
  · simp [hkl, eq_comm]
  · simp [hkl, get?_eq_some_iff hk]

theorem get?_eraseWhere :
    (fs.eraseWhere p).get? k = if k ≠ [] ∧ p k then none else fs.get? k := by
  by_cases hk : k = []
  · simp [hk]
  refine Option.ext ?_
  intro f
  rw [get?_eq_some_iff hk, eraseWhere]
  split
  · simp_all
  · simp_all [get?_eq_some_iff hk]

theorem get?_erase (hl : l ≠ []) :
    (fs.erase l).get? k = if k = l then none else fs.get? k := by
  rw [erase, get?_eraseWhere]
  by_cases hk : k = l <;> simp [hk, hl]

@[simp] theorem cwd_insert (fs : FileSystem) (l : Location) (e : Entry) :
    (fs.insert l e).cwd = fs.cwd := by
  rw [insert]
  split <;> rfl

@[simp] theorem cwd_erase (fs : FileSystem) (l : Location) : (fs.erase l).cwd = fs.cwd := rfl

@[simp] theorem refusals_insert (fs : FileSystem) (l : Location) (e : Entry) :
    (fs.insert l e).refusals = fs.refusals := by
  rw [insert]
  split <;> rfl

@[simp] theorem refusals_erase (fs : FileSystem) (l : Location) :
    (fs.erase l).refusals = fs.refusals := rfl

/-- Moving keeps what inserting keeps, but for what is cleared away first. -/
theorem apply_move {α : Type} (f : FileSystem → α) (hf : ∀ g l e, f (insert g l e) = f g)
    (fs : FileSystem) (s t : Location) :
    f (fs.move s t) = f ((fs.eraseBelow t).eraseBelow s) := by
  have hfold : ∀ (xs : List (Location × Entry)) (g : FileSystem),
      f (xs.foldl (fun g x => g.insert (t ++ x.1.drop s.length) x.2) g) = f g := by
    intro xs
    induction xs with
    | nil => exact fun g => rfl
    | cons x xs ih => exact fun g => (ih _).trans (hf _ _ _)
  rw [move, hfold]

@[simp] theorem cwd_move (fs : FileSystem) (s t : Location) : (fs.move s t).cwd = fs.cwd :=
  apply_move cwd cwd_insert fs s t

@[simp] theorem refusals_move (fs : FileSystem) (s t : Location) :
    (fs.move s t).refusals = fs.refusals :=
  apply_move refusals refusals_insert fs s t

/-! ### The list of entries -/

theorem eq_of_entries {fs fs' : FileSystem} (h : fs.entries = fs'.entries)
    (hcwd : fs.cwd = fs'.cwd) (hrefusals : fs.refusals = fs'.refusals) : fs = fs' := by
  cases fs
  cases fs'
  cases h
  cases hcwd
  cases hrefusals
  rfl

theorem not_mem_entries (h : fs.get? l = none) : l ∉ fs.entries.map Prod.fst := by
  have hl : l ≠ [] := by
    rintro rfl
    simp at h
  rw [← isSome_get?_iff hl, h]
  simp

/-- What is put where nothing stands comes last. -/
theorem entries_insert_of_free (h : fs.get? l = none) :
    (fs.insert l e).entries = fs.entries ++ [(l, e)] := by
  rw [insert, dif_neg (not_mem_entries h)]

/-- All but what is put in stays in its order. -/
theorem filter_entries_insert {q : Location → Bool} (hq : q l = false) :
    ((fs.insert l e).entries.filter fun x => q x.1) = fs.entries.filter fun x => q x.1 := by
  have hreplace : ∀ xs : List (Location × Entry),
      ((xs.map fun x => if x.1 = l then (l, e) else x).filter fun x => q x.1) =
        xs.filter fun x => q x.1 := by
    intro xs
    induction xs with
    | nil => rfl
    | cons x xs ih =>
        by_cases hx : x.1 = l
        · rw [List.map_cons, if_pos hx, List.filter_cons_of_neg (by simp [hq]),
            List.filter_cons_of_neg (by simp [hx, hq]), ih]
        · rw [List.map_cons, if_neg hx, List.filter_cons, List.filter_cons, ih]
  rw [insert]
  split
  · exact hreplace fs.entries
  · rw [List.filter_append, List.filter_cons_of_neg (by simp [hq])]
    simp

/-- One entry stands at a location. -/
theorem filter_entries_eq (hl : l ≠ []) (h : fs.get? l = some e) :
    (fs.entries.filter fun x => x.1 = l) = [(l, e)] := by
  have hsingle : ∀ xs : List (Location × Entry), (xs.map Prod.fst).Nodup → (l, e) ∈ xs →
      (xs.filter fun x => x.1 = l) = [(l, e)] := by
    intro xs hnodup hmem
    induction xs with
    | nil => cases hmem
    | cons x xs ih =>
        rw [List.map_cons, List.nodup_cons] at hnodup
        rcases List.mem_cons.mp hmem with rfl | hmem
        · rw [List.filter_cons_of_pos (by simp)]
          refine congrArg _ (List.filter_eq_nil_iff.mpr fun y hy hyl => hnodup.1 ?_)
          exact List.mem_map.mpr ⟨y, hy, of_decide_eq_true hyl⟩
        · have hx : x.1 ≠ l := fun hx => hnodup.1 (hx ▸ List.mem_map_of_mem hmem)
          rw [List.filter_cons_of_neg (by simpa using hx), ih hnodup.2 hmem]
  exact hsingle _ fs.distinct ((get?_eq_some_iff hl).mp h)

/-! ### Moving -/

theorem get?_foldl_insert (place : Location → Location) :
    ∀ (xs : List (Location × Entry)) (g : FileSystem), (∀ x ∈ xs, place x.1 ≠ []) →
      (xs.map fun x => place x.1).Nodup →
      (xs.foldl (fun g x => g.insert (place x.1) x.2) g).get? k =
        ((xs.find? fun x => place x.1 = k).map Prod.snd).or (g.get? k)
  | [],      g, _, _ => rfl
  | x :: xs, g, hne, hnodup => by
      rw [List.foldl_cons, get?_foldl_insert place xs _ (fun y hy => hne y (by simp [hy]))
        (List.nodup_cons.mp hnodup).2, get?_insert (hne x List.mem_cons_self)]
      -- No later entry is put to the place of this one, so it stays there.
      by_cases hk : place x.1 = k
      · have hnone : (xs.find? fun y => place y.1 = k) = none := by
          refine List.find?_eq_none.mpr fun y hy => ?_
          simp only [decide_eq_true_eq]
          exact fun hyk => (List.nodup_cons.mp hnodup).1
            (List.mem_map.mpr ⟨y, hy, hyk.trans hk.symm⟩)
        rw [hnone, if_pos hk.symm, List.find?_cons_of_pos (by simpa using hk)]
        rfl
      · rw [if_neg (Ne.symm hk), List.find?_cons_of_neg (by simpa using hk)]

/-- **Moving** puts what stood at `s` and below to `t` and below, and nothing stays at `s`. -/
theorem get?_move {s t : Location} (hs : s ≠ []) (ht : t ≠ []) :
    (fs.move s t).get? k =
      if t.isPrefixOf k then fs.get? (s ++ k.drop t.length)
      else if s.isPrefixOf k then none
      else fs.get? k := by
  have hplace {x : Location × Entry} (hx : s <+: x.1) : s ++ x.1.drop s.length = x.1 := by
    obtain ⟨y, hy⟩ := hx
    rw [← hy, List.drop_left]
  -- Two entries below `s` come to lie at one place only if they lay at one before.
  have hnodup : ((fs.entries.filter fun x => s.isPrefixOf x.1).map fun x =>
      t ++ x.1.drop s.length).Nodup := by
    refine (fs.distinct.of_map.filter _).map_on ?_
    intro x hx y hy hxy
    obtain ⟨hx, hsx⟩ := List.mem_filter.mp hx
    obtain ⟨hy, hsy⟩ := List.mem_filter.mp hy
    refine List.inj_on_of_nodup_map fs.distinct hx hy ?_
    rw [← hplace (List.isPrefixOf_iff_prefix.mp hsx), ← hplace (List.isPrefixOf_iff_prefix.mp hsy),
      List.append_cancel_left hxy]
  rw [move, get?_foldl_insert (fun x => t ++ x.drop s.length) _ _ (fun x _ => by simp [ht]) hnodup,
    List.find?_filter, eraseBelow, eraseBelow, get?_eraseWhere, get?_eraseWhere]
  by_cases htk : t.isPrefixOf k
  · obtain ⟨y, rfl⟩ := List.isPrefixOf_iff_prefix.mp htk
    have hfind : (fs.entries.find? fun x => decide (s.isPrefixOf x.1 = true ∧
        decide (t ++ x.1.drop s.length = t ++ y) = true)).map Prod.snd = fs.get? (s ++ y) := by
      rw [get?, if_neg (by simp [hs])]
      congr 2
      funext x
      rw [decide_eq_decide, decide_eq_true_eq, List.append_cancel_left_eq,
        List.isPrefixOf_iff_prefix]
      constructor
      · rintro ⟨hx, rfl⟩
        exact (hplace hx).symm
      · rintro hx
        simp [hx]
    have hty : t ++ y ≠ [] ∧ t.isPrefixOf (t ++ y) = true := ⟨by simp [ht], htk⟩
    rw [hfind, if_pos htk, List.drop_left, if_pos hty, ite_self, Option.or_none]
  · have hnone : (fs.entries.find? fun x => decide (s.isPrefixOf x.1 = true ∧
        decide (t ++ x.1.drop s.length = k) = true)) = none := by
      refine List.find?_eq_none.mpr fun x _ => ?_
      simp only [decide_eq_true_eq, not_and]
      exact fun _ hk => htk (List.isPrefixOf_iff_prefix.mpr (hk ▸ List.prefix_append t _))
    rw [hnone, if_neg htk, if_neg fun h : k ≠ [] ∧ t.isPrefixOf k = true => htk h.2]
    by_cases hsk : s.isPrefixOf k = true
    · have hk : k ≠ [] := fun hk => by simp [hk, hs] at hsk
      rw [if_pos ⟨hk, hsk⟩, if_pos hsk]
      rfl
    · rw [if_neg fun h => hsk h.2, if_neg hsk]
      rfl

end RecordingIndex.FileSystem

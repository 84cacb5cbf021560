import RecordingIndex.Proofs.FileSystem.Entry
import RecordingIndex.Proofs.Path.Child

/-!
# Proofs — FileSystem — trees

In a *tree* everything stands in a directory, under a name (`IsTree`).  The empty file system is a
tree, and a tree stays one when something is put into a directory (`IsTree.insert`), taken away
(`IsTree.erase`, `IsTree.eraseBelow`) or moved (`IsTree.move`).  In a tree nothing stands below what
is no directory, so a file that is moved is all that moves (`IsTree.get?_move_of_ne`).
-/

namespace RecordingIndex.FileSystem

variable {fs : FileSystem} {l : Location} {e : Entry} {n : Bytes}

/-- Everything stands in a directory, under a name. -/
structure IsTree (fs : FileSystem) : Prop where
  parent : ∀ {l n}, (fs.get? (l ++ [n])).isSome → fs.get? l = some .directory
  name   : ∀ {l n}, (fs.get? (l ++ [n])).isSome → Path.IsName n

theorem isTree_empty : IsTree .empty where
  parent h := by simp [get?, empty] at h
  name h := by simp [get?, empty] at h

/-- A tree stays one when an entry of a directory is put in, but not in place of a directory. -/
theorem IsTree.insert (h : fs.IsTree) (hl : fs.get? l = some .directory) (hn : Path.IsName n)
    (hfree : fs.get? (l ++ [n]) ≠ some .directory) : (fs.insert (l ++ [n]) e).IsTree where
  parent {k m} hk := by
    rw [get?_insert (by simp)] at hk ⊢
    split at hk
    · next heq =>
        obtain ⟨rfl, -⟩ := List.append_inj' heq rfl
        simpa using hl
    -- What was there before lies in a directory, so not in what is replaced.
    · rw [if_neg fun hkl : k = l ++ [n] => hfree (hkl ▸ h.parent hk)]
      exact h.parent hk
  name {k m} hk := by
    rw [get?_insert (by simp)] at hk
    split at hk
    · next heq =>
        obtain ⟨-, heq⟩ := List.append_inj' heq rfl
        cases heq
        exact hn
    · exact h.name hk

namespace IsTree

variable {s t k : Location}

theorem directory_above (h : fs.IsTree) : ∀ {r : Location} {l : Location} {a : Bytes},
    (fs.get? (l ++ a :: r)).isSome → fs.get? l = some .directory
  | [],     _, _, hl => h.parent hl
  | b :: r, l, a, hl => by
      have hla : fs.get? (l ++ [a]) = some .directory :=
        h.directory_above (by simpa [List.append_assoc] using hl)
      exact h.parent (n := a) (by simp [hla])

/-- Nothing stands below what is no directory. -/
theorem get?_below (h : fs.IsTree) (hl : fs.get? l ≠ some .directory) {x : Location}
    (hx : x ≠ []) : fs.get? (l ++ x) = none := by
  obtain ⟨a, r, rfl⟩ := List.exists_cons_of_ne_nil hx
  exact Option.not_isSome_iff_eq_none.mp fun hsome => hl (h.directory_above hsome)

/-- A tree stays one when an entry that is no directory is taken away. -/
theorem erase (h : fs.IsTree) (hnil : l ≠ []) (hl : fs.get? l ≠ some .directory) :
    (fs.erase l).IsTree where
  parent {k n} hk := by
    rw [get?_erase hnil] at hk ⊢
    split at hk
    · cases hk
    -- The directory of what stays is not what was taken away, which is none.
    · rw [if_neg fun hkl : k = l => hl (hkl ▸ h.parent hk)]
      exact h.parent hk
  name {k n} hk := by
    rw [get?_erase hnil] at hk
    split at hk
    · cases hk
    · exact h.name hk

/-- A tree stays one when an entry is taken away with all below it. -/
theorem eraseBelow (h : fs.IsTree) (l : Location) : (fs.eraseBelow l).IsTree where
  parent {k n} hk := by
    rw [FileSystem.eraseBelow, get?_eraseWhere] at hk ⊢
    split at hk
    · cases hk
    · next hkn =>
        rw [if_neg fun hl => hkn ⟨by simp, ?_⟩]
        · exact h.parent hk
        · exact List.isPrefixOf_iff_prefix.mpr
            ((List.isPrefixOf_iff_prefix.mp hl.2).trans (List.prefix_append k [n]))
  name {k n} hk := by
    rw [FileSystem.eraseBelow, get?_eraseWhere] at hk
    split at hk
    · cases hk
    · exact h.name hk

/-- **Moving** what is no directory takes it away from its place and puts it at the other. -/
theorem get?_move_of_ne (h : fs.IsTree) (hs : fs.get? s = some e) (he : e ≠ .directory)
    (ht : fs.get? t ≠ some .directory) :
    (fs.move s t).get? k = if k = t then some e else if k = s then none else fs.get? k := by
  have hsdir : fs.get? s ≠ some .directory := fun hd => he (Option.some.inj (hs.symm.trans hd))
  have hsnil : s ≠ [] := fun hnil => hsdir (hnil ▸ get?_nil fs)
  have htnil : t ≠ [] := fun hnil => ht (hnil ▸ get?_nil fs)
  rw [get?_move hsnil htnil]
  by_cases htk : t.isPrefixOf k = true
  · obtain ⟨y, rfl⟩ := List.isPrefixOf_iff_prefix.mp htk
    rw [if_pos htk, List.drop_left]
    by_cases hy : y = []
    · simp [hy, hs]
    · rw [h.get?_below hsdir hy, h.get?_below ht hy, if_neg (by simp [hy]), ite_self]
  rw [if_neg htk, if_neg fun hkt : k = t => htk (by simp [hkt])]
  by_cases hsk : s.isPrefixOf k = true
  · obtain ⟨y, rfl⟩ := List.isPrefixOf_iff_prefix.mp hsk
    rw [if_pos hsk]
    by_cases hy : y = []
    · simp [hy]
    · rw [h.get?_below hsdir hy, ite_self]
  · rw [if_neg hsk, if_neg fun hks : k = s => hsk (by simp [hks])]

/-- **Moving** what is no directory puts it last and leaves all else in its order. -/
theorem entries_move (h : fs.IsTree) (hs : fs.get? s = some e) (he : e ≠ .directory)
    (ht : fs.get? t ≠ some .directory) :
    (fs.move s t).entries =
      (fs.entries.filter fun x => x.1 ≠ t ∧ x.1 ≠ s) ++ [(t, e)] := by
  have hsdir : fs.get? s ≠ some .directory := fun hd => he (Option.some.inj (hs.symm.trans hd))
  have hsnil : s ≠ [] := fun hnil => hsdir (hnil ▸ get?_nil fs)
  have htnil : t ≠ [] := fun hnil => ht (hnil ▸ get?_nil fs)
  -- Nothing stands below the two places, so what lies there is what stands there.
  have hbelow : ∀ {r : Location}, fs.get? r ≠ some .directory → ∀ x ∈ fs.entries,
      r.isPrefixOf x.1 = decide (x.1 = r) := by
    intro r hr x hx
    rw [Bool.eq_iff_iff, List.isPrefixOf_iff_prefix, decide_eq_true_eq]
    constructor
    · rintro ⟨y, hy⟩
      by_cases hnil : y = []
      · rw [← hy, hnil, List.append_nil]
      · have hsome : (fs.get? x.1).isSome :=
          (isSome_get?_iff (by simp [← hy, hnil])).mpr (List.mem_map_of_mem hx)
        rw [← hy, h.get?_below hr hnil] at hsome
        cases hsome
    · rintro rfl
      exact List.prefix_refl _
  have hmoved : (fs.entries.filter fun x => s.isPrefixOf x.1) = [(s, e)] := by
    rw [← filter_entries_eq hsnil hs]
    exact List.filter_congr (hbelow hsdir)
  have hcleared : ((fs.eraseBelow t).eraseBelow s).entries =
      fs.entries.filter fun x => x.1 ≠ t ∧ x.1 ≠ s := by
    have herased : ((fs.eraseBelow t).eraseBelow s).entries =
        (fs.entries.filter fun x => !t.isPrefixOf x.1).filter fun x => !s.isPrefixOf x.1 := rfl
    rw [herased, List.filter_filter]
    refine List.filter_congr fun x hx => ?_
    rw [hbelow hsdir x hx, hbelow ht x hx]
    simp [and_comm]
  have hfree : ((fs.eraseBelow t).eraseBelow s).get? t = none := by
    rw [FileSystem.eraseBelow, FileSystem.eraseBelow, get?_eraseWhere, get?_eraseWhere]
    simp [htnil]
  rw [FileSystem.move, hmoved, List.foldl_cons, List.foldl_nil, List.drop_length, List.append_nil,
    entries_insert_of_free hfree, hcleared]

/-- What stands in a directory after a move: what was moved there, something that came with it, or
something that has nothing to do with the move. -/
theorem cases_move (hs : s ≠ []) {k : Location} {m : Bytes}
    (hk : ((fs.move s (l ++ [n])).get? (k ++ [m])).isSome) :
    (k = l ∧ m = n) ∨
      (∃ y, k = l ++ [n] ++ y ∧ (fs.get? (s ++ y ++ [m])).isSome) ∨
      (¬l ++ [n] <+: k ∧ ¬s <+: k ∧ (fs.get? (k ++ [m])).isSome) := by
  rw [get?_move hs (by simp)] at hk
  by_cases htk : (l ++ [n]).isPrefixOf (k ++ [m]) = true
  · rw [if_pos htk] at hk
    rcases List.prefix_concat_iff.mp (List.isPrefixOf_iff_prefix.mp htk) with heq | ⟨y, rfl⟩
    · obtain ⟨hl, hn⟩ := List.append_inj' heq rfl
      exact .inl ⟨hl.symm, (List.singleton_inj.mp hn).symm⟩
    · rw [List.append_assoc _ y, List.drop_left, ← List.append_assoc] at hk
      exact .inr (.inl ⟨y, rfl, hk⟩)
  · rw [if_neg htk] at hk
    split at hk
    · cases hk
    · next hsk =>
        rw [List.isPrefixOf_iff_prefix] at htk hsk
        exact .inr (.inr ⟨fun h => htk (h.trans (List.prefix_append k [m])),
          fun h => hsk (h.trans (List.prefix_append k [m])), hk⟩)

/-- A tree stays one when an entry is moved into a directory, but not into itself. -/
theorem move (h : fs.IsTree) (hs : s ≠ []) (hl : fs.get? l = some .directory) (hn : Path.IsName n)
    (hinto : ¬s <+: l ++ [n]) : (fs.move s (l ++ [n])).IsTree where
  parent {k m} hk := by
    rw [get?_move hs (by simp)]
    rcases cases_move hs hk with ⟨rfl, -⟩ | ⟨y, rfl, hy⟩ | ⟨htk, hsk, hentry⟩
    -- The directory that is moved into stays where it is: it lies neither below the place nor below
    -- `s`.
    · have htk : ¬k ++ [n] <+: k := fun h => absurd h.length_le (by simp)
      have hsk : ¬s <+: k := fun h => hinto (h.trans (List.prefix_append k [n]))
      rw [if_neg (by rwa [List.isPrefixOf_iff_prefix]),
        if_neg (by rwa [List.isPrefixOf_iff_prefix])]
      exact hl
    · rw [if_pos (List.isPrefixOf_iff_prefix.mpr (List.prefix_append _ y)), List.drop_left]
      exact h.parent hy
    · rw [if_neg (by rwa [List.isPrefixOf_iff_prefix]),
        if_neg (by rwa [List.isPrefixOf_iff_prefix])]
      exact h.parent hentry
  name {k m} hk := by
    rcases cases_move hs hk with ⟨-, rfl⟩ | ⟨y, -, hy⟩ | ⟨-, -, hentry⟩
    · exact hn
    · exact h.name hy
    · exact h.name hentry

end IsTree

end RecordingIndex.FileSystem

import RecordingIndex.Proofs.FileSystem.Tree
import RecordingIndex.Proofs.FileSystem.Way

/-!
# Proofs — FileSystem — changes keep a tree

A path resolves to something that stands there or to a free name in a directory (`lands_resolve`).
So every change of a file system by paths keeps a tree (`Operation.isTree`), and so does every
sequence of changes (`Operation.isTree_all`).
-/

namespace RecordingIndex

/-! ### The names in a path -/

namespace Path

/-- The steps of a path enter names. -/
theorem isName_of_mem_steps {p : Path} {n : Bytes} (h : Step.enter n ∈ p.steps) : IsName n := by
  rw [steps_eq] at h
  rcases List.mem_append.mp h with h | h
  · obtain ⟨part, hpart, hstep⟩ := List.mem_filterMap.mp h
    have hslash := not_mem_of_mem_split hpart
    rw [Step.ofPart?] at hstep
    split at hstep
    · cases hstep
    next ne_nil =>
    split at hstep
    · cases hstep
    next ne_dot =>
    split at hstep
    · cases hstep
    next ne_dots =>
    cases hstep
    exact ⟨ne_nil, ne_dot, ne_dots, hslash⟩
  · split at h <;> simp at h

end Path

namespace FileSystem

open RecordingIndex.Path (Step)

variable {fs fs' : FileSystem} {purpose : Purpose} {k : Nat} {here : Location} {steps : List Step}
  {found : Found} {p : Path}

/-! ### Where a path leads -/

/-- What a walk may find: something that stands there, or a free name in a directory. -/
def Lands (fs : FileSystem) : Found → Prop
  | .entry l e => fs.get? l = some e
  | .free l    =>
      ∃ d n, l = d ++ [n] ∧ fs.get? d = some .directory ∧ Path.IsName n ∧ fs.get? l = none

theorem lands_walk : ∀ {k : Nat} {steps : List Step} {here : Location},
    (∀ n, .enter n ∈ steps → Path.IsName n) → fs.walk purpose k here steps = .ok found →
      fs.Lands found
  | k, [],        here, _, h => by
      rw [walk_eq, walkWith] at h
      split at h
      · next e hentry =>
          cases h
          exact hentry
      · cases h
  | k, s :: rest, here, hnames, h => by
      have hrest : ∀ n, .enter n ∈ rest → Path.IsName n := fun n hn =>
        hnames n (List.mem_cons_of_mem s hn)
      by_cases dir : fs.get? here = some .directory
      case neg => cases s <;> simp [walk_eq, walkWith, dir] at h
      cases step : aside? here s with
      | some next =>
          rw [walk_aside step, if_pos dir] at h
          exact lands_walk hrest h
      | none =>
      cases s with
      | up | stay | close => cases step
      | enter n =>
      by_cases length : n.length ≤ maxName
      case neg => simp [walk_eq, walkWith, dir, Nat.lt_of_not_le length] at h
      by_cases make : purpose = .make ∧ rest = [.close]
      case pos => simp [walk_eq, walkWith, dir, Nat.not_lt.mpr length, make] at h
      rw [walk_enter dir length make] at h
      cases entry : fs.get? (here ++ [n]) with
      | none =>
          simp only [entry] at h
          split at h
          · cases h
            exact ⟨here, n, rfl, dir, hnames n List.mem_cons_self, entry⟩
          · cases h
      | some e =>
      simp only [entry] at h
      cases e with
      | directory | file => exact lands_walk hrest h
      | link t =>
          simp only at h
          split at h
          · cases h
            exact entry
          cases k with
          | zero => cases h
          | succ k =>
              -- The steps of the link are names too, so the walk goes on with names only.
              refine lands_walk (k := k) (fun m hm => ?_) h
              rcases List.mem_append.mp hm with hm | hm
              · exact Path.isName_of_mem_steps hm
              · exact hrest m hm
termination_by k steps => (k, steps.length)

/-- **A path** leads to something that stands there or to a free name in a directory. -/
theorem lands_resolve (h : fs.resolve purpose p = .ok found) : fs.Lands found := by
  by_cases no_nul : 0 ∈ p.bytes
  · simp [resolve, no_nul] at h
  by_cases ne_nil : p.bytes = []
  · simp [resolve, ne_nil] at h
  by_cases length : maxPath ≤ p.bytes.length
  · simp [resolve, no_nul, ne_nil, length] at h
  rw [resolve, if_neg no_nul, if_neg ne_nil, if_neg length] at h
  exact lands_walk (fun n hn => Path.isName_of_mem_steps hn) h

/-! ### Changes -/

/-- An operation that changes a file system by paths. -/
inductive Operation where
  | write (p : Path) (c : Contents)
  | rename (p q : Path)
  | removeFile (p : Path)
  | removeTree (p : Path)
  | symlink (target p : Path)
  | makeDirectory (p : Path)
  | makeDirectories (p : Path)

/-- The file system after an operation. -/
def Operation.apply (fs : FileSystem) : Operation → Except FileError FileSystem
  | .write p c         => fs.write p c
  | .rename p q        => fs.rename p q
  | .removeFile p      => fs.removeFile p
  | .removeTree p      => fs.removeTree p
  | .symlink target p  => fs.symlink target p
  | .makeDirectory p   => fs.makeDirectory p
  | .makeDirectories p => fs.makeDirectories p

section

variable {l s t : Location} {e e' : Entry} {d : Location} {n : Bytes}

theorem IsTree.insert_free (h : fs.IsTree) (hfree : fs.Lands (.free l)) (e : Entry) :
    (fs.insert l e).IsTree := by
  obtain ⟨d, n, rfl, hdir, hname, hnone⟩ := hfree
  exact h.insert hdir hname (by simp [hnone])

/-- What is no directory stands in one under a name. -/
theorem IsTree.exists_parent (h : fs.IsTree) (hl : fs.get? l = some e) (hne : l ≠ []) :
    ∃ d n, l = d ++ [n] ∧ fs.get? d = some .directory ∧ Path.IsName n := by
  obtain ⟨d, n, rfl⟩ : ∃ d n, l = d ++ [n] := ⟨_, _, (List.dropLast_concat_getLast hne).symm⟩
  have hsome : (fs.get? (d ++ [n])).isSome := by simp [hl]
  exact ⟨d, n, rfl, h.parent hsome, h.name hsome⟩

theorem ne_nil_of_get? (hl : fs.get? l = some e) (he : e ≠ .directory) : l ≠ [] := by
  rintro rfl
  exact he (Option.some.inj hl).symm

theorem IsTree.insert_entry (h : fs.IsTree) (hl : fs.get? l = some e) (he : e ≠ .directory)
    (e' : Entry) : (fs.insert l e').IsTree := by
  obtain ⟨d, n, rfl, hdir, hname⟩ := h.exists_parent hl (ne_nil_of_get? hl he)
  exact h.insert hdir hname (by simpa [hl] using he)

/-- What is no directory stands above no directory. -/
theorem IsTree.not_above (h : fs.IsTree) (hs : fs.get? s = some e) (he : e ≠ .directory)
    (hd : fs.get? d = some .directory) : ¬s <+: d := by
  rintro ⟨x, rfl⟩
  by_cases hx : x = []
  · rw [hx, List.append_nil, hs] at hd
    exact he (Option.some.inj hd)
  · rw [h.get?_below (by simpa [hs] using he) hx] at hd
    cases hd

theorem IsTree.move_leaf (h : fs.IsTree) (hs : fs.get? s = some e) (he : e ≠ .directory)
    (hst : s ≠ d ++ [n]) (hd : fs.get? d = some .directory) (hn : Path.IsName n) :
    (fs.move s (d ++ [n])).IsTree := by
  refine h.move (ne_nil_of_get? hs he) hd hn ?_
  intro hinto
  rcases List.prefix_concat_iff.mp hinto with heq | habove
  · exact hst heq
  · exact h.not_above hs he hd habove

/-- The root is not empty where something else than the root stands. -/
theorem IsTree.names_ne_nil (h : fs.IsTree) (hs : fs.get? s = some e) (hne : s ≠ []) :
    fs.names [] ≠ [] := by
  obtain ⟨a, r, rfl⟩ := List.exists_cons_of_ne_nil hne
  have ha : (fs.get? ([] ++ [a])).isSome := by
    cases r with
    | nil => simp [hs]
    | cons b r =>
        have hdir : fs.get? ([] ++ [a]) = some .directory :=
          h.directory_above (r := r) (a := b) (by simp [hs])
        rw [hdir]
        rfl
  exact List.ne_nil_of_mem (mem_names.mpr ha)

end

theorem isTree_write {c : Contents} (h : fs.IsTree) (hw : fs.write p c = .ok fs') :
    fs'.IsTree := by
  rw [write] at hw
  split at hw
  · next l c' hl =>
      cases hw
      exact h.insert_entry (lands_resolve hl) (by simp) _
  · cases hw
  · next l hl =>
      cases hw
      exact h.insert_free (lands_resolve hl) _
  · cases hw

theorem isTree_removeFile (h : fs.IsTree) (hr : fs.removeFile p = .ok fs') : fs'.IsTree := by
  rw [removeFile] at hr
  split at hr
  · cases hr
  · next l e hne hl =>
      cases hr
      have he : e ≠ .directory := hne
      have hentry : fs.get? l = some e := lands_resolve hl
      exact h.erase (ne_nil_of_get? hentry he) (by simpa [hentry] using he)
  · cases hr
  · cases hr

theorem isTree_removeTree (h : fs.IsTree) (hr : fs.removeTree p = .ok fs') : fs'.IsTree := by
  rw [removeTree] at hr
  split at hr
  · cases hr
    exact h.eraseBelow _
  · cases hr
  · cases hr

theorem isTree_symlink {target : Path} (h : fs.IsTree) (hs : fs.symlink target p = .ok fs') :
    fs'.IsTree := by
  rw [symlink] at hs
  split at hs
  · cases hs
  · next l hl =>
      split at hs
      · cases hs
      · cases hs
        exact h.insert_free (lands_resolve hl) _
  · cases hs

theorem isTree_makeDirectory (h : fs.IsTree) (hm : fs.makeDirectory p = .ok fs') : fs'.IsTree := by
  rw [makeDirectory] at hm
  split at hm
  · split at hm
    · cases hm
      exact h
    · cases hm
  · next l hl =>
      cases hm
      exact h.insert_free (lands_resolve hl) _
  · cases hm

theorem isTree_rename {q : Path} (h : fs.IsTree) (hr : fs.rename p q = .ok fs') : fs'.IsTree := by
  rw [rename] at hr
  cases hsource : fs.resolve .lookAtLink p with
  | error e => rw [hsource] at hr; cases hr
  | ok source =>
  cases htarget : fs.resolve .lookAtLink q with
  | error e => rw [hsource, htarget] at hr; cases hr
  | ok target =>
  simp only [hsource, htarget, bind, Except.bind] at hr
  cases source with
  | free s => cases hr
  | entry s e =>
  have hs : fs.get? s = some e := lands_resolve hsource
  cases target with
  | free t =>
      obtain ⟨d, n, rfl, hd, hn, hfree⟩ := lands_resolve htarget
      dsimp only at hr
      split at hr
      · cases hr
      next hinto =>
      cases hr
      -- A directory is moved with all below it, but not into itself; anything else has nothing
      -- below it.
      by_cases he : e = .directory
      · have hinto : ¬s <+: d ++ [n] := fun hs => hinto ⟨he, List.isPrefixOf_iff_prefix.mpr hs⟩
        exact h.move (fun hnil => hinto (hnil ▸ List.nil_prefix)) hd hn hinto
      · exact h.move_leaf hs he (fun hst => by simp [hst, hfree] at hs) hd hn
  | entry t e' =>
      have ht : fs.get? t = some e' := lands_resolve htarget
      dsimp only at hr
      split at hr
      · cases hr
        exact h
      next hst =>
      split at hr
      · split at hr
        · cases hr
        next hinto =>
        split at hr
        · cases hr
        split at hr
        · cases hr
        next hempty =>
        cases hr
        rw [List.isPrefixOf_iff_prefix] at hinto
        -- The root is neither moved nor replaced: it lies above everything, and it is not empty.
        have hne : s ≠ [] := fun hnil => hinto (hnil ▸ List.nil_prefix)
        have htne : t ≠ [] := fun hnil => hempty (by simpa [hnil] using h.names_ne_nil hs hne)
        obtain ⟨d, n, rfl, hd, hn⟩ := h.exists_parent ht htne
        exact h.move hne hd hn hinto
      next he =>
      split at hr
      · split at hr <;> cases hr
      next he' =>
      cases hr
      obtain ⟨d, n, rfl, hd, hn⟩ := h.exists_parent ht (ne_nil_of_get? ht he')
      exact h.move_leaf hs he hst hd hn

theorem isTree_foldlM {α : Type} {f : FileSystem → α → Except FileError FileSystem}
    (hf : ∀ {g g' a}, g.IsTree → f g a = .ok g' → g'.IsTree) :
    ∀ {xs : List α} {fs : FileSystem}, fs.IsTree → xs.foldlM f fs = .ok fs' → fs'.IsTree
  | [],      fs, h, hxs => by
      cases hxs
      exact h
  | a :: xs, fs, h, hxs => by
      rw [List.foldlM_cons] at hxs
      cases ha : f fs a with
      | error e => rw [ha] at hxs; cases hxs
      | ok g =>
          rw [ha] at hxs
          exact isTree_foldlM hf (hf h ha) hxs

/-- **Every operation** keeps a tree. -/
theorem Operation.isTree {c : Operation} (h : fs.IsTree) (hc : c.apply fs = .ok fs') :
    fs'.IsTree := by
  cases c with
  | write => exact isTree_write h hc
  | rename => exact isTree_rename h hc
  | removeFile => exact isTree_removeFile h hc
  | removeTree => exact isTree_removeTree h hc
  | symlink => exact isTree_symlink h hc
  | makeDirectory => exact isTree_makeDirectory h hc
  | makeDirectories => exact isTree_foldlM isTree_makeDirectory h hc

/-- **Operations** one after the other keep a tree. -/
theorem Operation.isTree_all {cs : List Operation} (h : fs.IsTree)
    (hcs : cs.foldlM (fun g c => c.apply g) fs = .ok fs') : fs'.IsTree :=
  isTree_foldlM Operation.isTree h hcs

end FileSystem

end RecordingIndex

import Mathlib.Algebra.GroupWithZero.Nat
import Mathlib.Data.List.Forall2
import Mathlib.Data.List.Nodup

/-!
# Proofs — lists

Sorting by different keys gives strictly ascending keys (`pairwise_lt_mergeSort`), different keys
find one entry each (`find?_eq_some_iff_of_nodup`), and what no two of some predicates hold of is
counted once by all of them (`sum_countP`).
-/

namespace RecordingIndex

variable {α β γ : Type}

/-! ### Order -/

section

variable {κ : Type} [LE κ] [LT κ] [DecidableLE κ] [Std.IsLinearOrder κ] [Std.LawfulOrderLT κ]

/-- **Different keys** ascend strictly once they are sorted. -/
theorem pairwise_lt_mergeSort {key : α → κ} {xs : List α} (h : (xs.map key).Nodup) :
    (xs.mergeSort fun x y => key x ≤ key y).Pairwise fun x y => key x < key y := by
  have htrans : ∀ x y z : α, decide (key x ≤ key y) → decide (key y ≤ key z) →
      decide (key x ≤ key z) := fun x y z hxy hyz =>
    decide_eq_true (Std.le_trans (of_decide_eq_true hxy) (of_decide_eq_true hyz))
  have htotal : ∀ x y : α, decide (key x ≤ key y) || decide (key y ≤ key x) := by
    intro x y
    simpa using Std.le_total (a := key x) (b := key y)
  have hperm := List.mergeSort_perm xs fun x y => decide (key x ≤ key y)
  have hle := List.pairwise_mergeSort htrans htotal xs
  have hne := List.pairwise_map.mp ((hperm.map key).nodup_iff.mpr h)
  exact hle.imp₂ (fun x y hxy hne => Std.lt_of_le_of_ne (of_decide_eq_true hxy) hne) hne

end

theorem exists_getElem?_of_sublist {x y : α} {xs : List α} (h : [x, y].Sublist xs) :
    ∃ i j : Nat, i < j ∧ xs[i]? = some x ∧ xs[j]? = some y := by
  by_contra hno
  have hpair : xs.Pairwise fun a b => ¬(a = x ∧ b = y) := by
    refine List.pairwise_iff_getElem.mpr fun i j hi hj hlt hab => hno ⟨i, j, hlt, ?_⟩
    exact ⟨List.getElem?_eq_some_iff.mpr ⟨hi, hab.1⟩, List.getElem?_eq_some_iff.mpr ⟨hj, hab.2⟩⟩
  exact List.pairwise_iff_forall_sublist.mp hpair h ⟨rfl, rfl⟩

/-! ### Keys -/

/-- **Under different keys** what is found is the one entry that has the key. -/
theorem find?_eq_some_iff_of_nodup {α : Type*} {κ : Type} [DecidableEq κ] {key : α → κ}
    {xs : List α} {k : κ} {x : α} (h : (xs.map key).Nodup) :
    xs.find? (fun y => key y = k) = some x ↔ x ∈ xs ∧ key x = k := by
  constructor
  · intro hfind
    have hkey := List.find?_some hfind
    exact ⟨List.mem_of_find?_eq_some hfind, of_decide_eq_true hkey⟩
  · rintro ⟨hx, rfl⟩
    have hsome : (xs.find? fun y => key y = key x).isSome :=
      List.find?_isSome.mpr ⟨x, hx, decide_eq_true rfl⟩
    obtain ⟨y, hy⟩ := Option.isSome_iff_exists.mp hsome
    have hkey := List.find?_some hy
    rw [hy, List.inj_on_of_nodup_map h (List.mem_of_find?_eq_some hy) hx (of_decide_eq_true hkey)]

/-! ### Counting -/

theorem countP_or {p q : α → Bool} : ∀ {xs : List α}, (∀ x ∈ xs, p x → q x = false) →
    (xs.countP fun x => p x || q x) = xs.countP p + xs.countP q
  | [],      _ => rfl
  | x :: xs, h => by
      have ih := countP_or fun y hy => h y (List.mem_cons_of_mem x hy)
      have hx := h x List.mem_cons_self
      cases hp : p x with
      | false => simp [List.countP_cons, ih, hp]; omega
      | true => simp [ih, hp, hx hp]; omega

/-- **What predicates count** one by one is what they count together, if no two of them hold of the
same. -/
theorem sum_countP {p : α → β → Bool} (ys : List β) : ∀ {xs : List α},
    xs.Pairwise (fun x x' => ∀ y ∈ ys, p x y → p x' y = false) →
      (xs.map fun x => ys.countP (p x)).sum = ys.countP fun y => xs.any fun x => p x y
  | [],      _ => by simp
  | x :: xs, h => by
      have hdisjoint : ∀ y ∈ ys, p x y → (xs.any fun x' => p x' y) = false := by
        intro y hy hx
        rw [List.any_eq_false]
        exact fun x' hx' => Bool.eq_false_iff.mp (List.rel_of_pairwise_cons h hx' y hy hx)
      rw [List.map_cons, List.sum_cons, sum_countP ys h.of_cons]
      simp only [List.any_cons]
      rw [countP_or hdisjoint]

/-! ### Relations place by place -/

theorem forall₂_of_filterMap {f : α → Option β} {R : β → γ → Prop} {S : α → γ → Prop} :
    ∀ {xs : List α} {zs : List γ}, (∀ x ∈ xs, ∃ y, f x = some y ∧ ∀ z, R y z → S x z) →
      List.Forall₂ R (xs.filterMap f) zs → List.Forall₂ S xs zs
  | [],      zs, _, h => by
      obtain rfl := List.forall₂_nil_left_iff.mp h
      exact .nil
  | x :: xs, zs, hsome, h => by
      obtain ⟨y, hy, hS⟩ := hsome x List.mem_cons_self
      rw [List.filterMap_cons_some hy] at h
      obtain ⟨z, zs, hyz, hzs, rfl⟩ := List.forall₂_cons_left_iff.mp h
      exact .cons (hS z hyz)
        (forall₂_of_filterMap (fun w hw => hsome w (List.mem_cons_of_mem x hw)) hzs)

theorem map_eq_of_forall₂ {S : α → β → Prop} {f : α → γ} {g : β → γ} {xs : List α} {ys : List β}
    (h : List.Forall₂ S xs ys) (hfg : ∀ x y, S x y → g y = f x) : ys.map g = xs.map f := by
  induction h with
  | nil => rfl
  | cons hxy _ ih => rw [List.map_cons, List.map_cons, hfg _ _ hxy, ih]

end RecordingIndex

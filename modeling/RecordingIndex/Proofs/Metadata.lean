import Mathlib.Algebra.GroupWithZero.Nat
import RecordingIndex.Metadata

/-!
# Proofs — sums that stay within their bounds

Numbers are added exactly, up to the greatest of 64 bits (`toNat_saturatingAdd`,
`toNat_sum`).
-/

namespace RecordingIndex

theorem toNat_clamp (n : Nat) : (clamp n).toNat = min n (UInt64.size - 1) := by
  rw [clamp, UInt64.toNat_ofNat']
  have : UInt64.size = 2 ^ 64 := rfl
  omega

theorem toNat_saturatingAdd (a b : UInt64) :
    (saturatingAdd a b).toNat = min (a.toNat + b.toNat) (UInt64.size - 1) :=
  toNat_clamp _

theorem clamp_toNat (n : UInt64) : clamp n.toNat = n := by
  refine UInt64.toNat_inj.mp ?_
  have : UInt64.size = 2 ^ 64 := rfl
  have := n.toNat_lt
  rw [toNat_clamp]
  omega

/-- A sum is clamped once. -/
theorem toNat_foldl_saturatingAdd {α : Type} (size : α → Nat) :
    ∀ (xs : List α) (total : UInt64),
      (xs.foldl (fun total x => saturatingAdd total (clamp (size x))) total).toNat =
        min (total.toNat + (xs.map size).sum) (UInt64.size - 1)
  | [],      total => by
      have := total.toNat_lt
      simp
      omega
  | x :: xs, total => by
      rw [List.foldl_cons, toNat_foldl_saturatingAdd size xs, toNat_saturatingAdd, toNat_clamp,
        List.map_cons, List.sum_cons]
      omega

theorem toNat_sum (ns : List UInt64) :
    (ns.foldl saturatingAdd 0).toNat = min (ns.map UInt64.toNat).sum (UInt64.size - 1) := by
  simpa only [clamp_toNat, UInt64.toNat_zero, Nat.zero_add] using
    toNat_foldl_saturatingAdd UInt64.toNat ns 0

end RecordingIndex

import Mathlib.Algebra.Order.Field.Power
import Mathlib.Data.Rat.Cast.Order
import ReactiveContract.Quantity
/-! Quantities are ordered as the numbers that they stand for. -/
namespace ReactiveContract

theorem compare_eq_compare {α β : Type} [LinearOrder α] [LinearOrder β] {a b : α} {c d : β}
    (hlt : a < b ↔ c < d) (heq : a = b ↔ c = d) : compare a b = compare c d := by
  rcases lt_trichotomy a b with h | h | h
  · rw [compare_lt_iff_lt.mpr h, compare_lt_iff_lt.mpr (hlt.mp h)]
  · rw [compare_eq_iff_eq.mpr h, compare_eq_iff_eq.mpr (heq.mp h)]
  · have hle : d ≤ c := not_lt.mp (hlt.not.mp h.not_gt)
    have hgt : d < c := lt_of_le_of_ne hle (Ne.symm (heq.not.mp h.ne'))
    rw [compare_gt_iff_gt.mpr h, compare_gt_iff_gt.mpr hgt]

namespace Binary64

/-- The rational number that a finite number stands for. -/
def value? : Binary64 → Option ℚ
  | .finite negative m e => some ((if negative then -(m : ℚ) else m) * 2 ^ e)
  | .infinite _ | .nan => none

private theorem twoPow_mul_zpow {e : Int} (he : e < 0) : (twoPow e : ℚ) * 2 ^ e = 1 := by
  have habs : (e.natAbs : Int) = -e := by omega
  rw [twoPow, Nat.pow_eq, Nat.cast_pow, Nat.cast_ofNat, ← zpow_natCast, habs,
    ← zpow_add₀ two_ne_zero, neg_add_cancel, zpow_zero]

private theorem twoPow_of_nonneg {e : Int} (he : 0 ≤ e) : (twoPow e : ℚ) = 2 ^ e := by
  have habs : (e.natAbs : Int) = e := by omega
  rw [twoPow, Nat.pow_eq, Nat.cast_pow, Nat.cast_ofNat, ← zpow_natCast, habs]

theorem compareInt?_of_value? {x : Binary64} {r : ℚ} (h : x.value? = some r) (n : Int) :
    x.compareInt? n = some (compare r n) := by
  cases x with
  | infinite negative => cases h
  | nan => cases h
  | finite negative m e =>
    obtain rfl := Option.some.inj h
    have hcast : (if negative then -(m : ℚ) else m)
        = (if negative = true then -(m : Int) else m : Int) := by
      cases negative <;> simp
    rw [hcast, compareInt?]
    generalize (if negative = true then -(m : Int) else m : Int) = k
    have hpos : (0 : ℚ) < 2 ^ e := zpow_pos two_pos e
    split
    case isTrue he =>
      -- both sides times the power, so that only integers are compared
      have hn : (n : ℚ) = ((n * twoPow e : Int) : ℚ) * 2 ^ e := by
        push_cast
        rw [mul_assoc, twoPow_mul_zpow he, mul_one]
      rw [hn]
      refine congrArg some (compare_eq_compare ?_ ?_)
      · rw [mul_lt_mul_iff_left₀ hpos, Int.cast_lt]
      · rw [mul_left_inj' hpos.ne', Int.cast_inj]
    case isFalse he =>
      have hk : (k : ℚ) * 2 ^ e = ((k * twoPow e : Int) : ℚ) := by
        push_cast
        rw [twoPow_of_nonneg (not_lt.mp he)]
      rw [hk]
      exact congrArg some (compare_eq_compare Int.cast_lt.symm Int.cast_inj.symm)

end Binary64

namespace Quantity
variable {x : Binary64} {r : ℚ} {n : Int}

theorem isAtMost_iff_of_value? (h : x.value? = some r) :
    (binary x).isAtMost n = true ↔ r ≤ n := by
  simp only [isAtMost, isBelow, compareWhole?, Binary64.compareInt?_of_value? h, Bool.or_eq_true,
    decide_eq_true_eq, Option.some.injEq]
  rw [compare_lt_iff_lt, compare_eq_iff_eq, le_iff_lt_or_eq]

theorem isAbove_iff_of_value? (h : x.value? = some r) :
    (binary x).isAbove n = true ↔ n < r := by
  simp only [isAbove, compareWhole?, Binary64.compareInt?_of_value? h, decide_eq_true_eq,
    Option.some.injEq]
  rw [compare_gt_iff_gt]

variable {m : Int}

theorem isAtMost_whole_iff : (whole m).isAtMost n = true ↔ m ≤ n := by
  simp only [isAtMost, isBelow, compareWhole?, Bool.or_eq_true, decide_eq_true_eq,
    Option.some.injEq]
  rw [compare_lt_iff_lt, compare_eq_iff_eq, le_iff_lt_or_eq]

theorem isAtLeast_whole_iff : (whole m).isAtLeast n = true ↔ n ≤ m := by
  simp only [isAtLeast, isAbove, compareWhole?, Bool.or_eq_true, decide_eq_true_eq,
    Option.some.injEq]
  rw [compare_gt_iff_gt, compare_eq_iff_eq, le_iff_lt_or_eq, eq_comm]

theorem isAbove_whole_iff : (whole m).isAbove n = true ↔ n < m := by
  simp only [isAbove, compareWhole?, decide_eq_true_eq, Option.some.injEq]
  rw [compare_gt_iff_gt]

theorem isBelow_whole_iff : (whole m).isBelow n = true ↔ m < n := by
  simp only [isBelow, compareWhole?, decide_eq_true_eq, Option.some.injEq]
  rw [compare_lt_iff_lt]

end Quantity
end ReactiveContract

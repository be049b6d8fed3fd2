import Mathlib.Data.Rat.Floor

/-!
# Truncation toward zero

Integer division rounds the exact quotient toward zero.

* `truncate` — this rounding, of any rational number.
* `tdiv_eq_truncate` — truncating division is the truncated quotient.
* `truncate_mono`, `abs_truncate_le`, `abs_sub_truncate_lt_one` — it keeps the order, moves toward zero, and by
  less than one.
-/

set_option autoImplicit false

namespace Truncation

/-- The nearest integer on the way to zero. -/
def truncate (q : ℚ) : Int := if 0 ≤ q then ⌊q⌋ else ⌈q⌉

theorem truncate_of_nonneg {q : ℚ} (hq : 0 ≤ q) : truncate q = ⌊q⌋ := if_pos hq

theorem truncate_of_nonpos {q : ℚ} (hq : q ≤ 0) : truncate q = ⌈q⌉ := by
  unfold truncate
  split
  · next hnonneg =>
      have hzero : q = 0 := le_antisymm hq hnonneg
      simp [hzero]
  · rfl

theorem tdiv_eq_truncate (n : Int) (d : Nat) : n.tdiv d = truncate (n / d) := by
  rcases Int.le_total 0 n with hn | hn
  · have hq : (0 : ℚ) ≤ n / d := div_nonneg (by exact_mod_cast hn) (Nat.cast_nonneg d)
    rw [truncate_of_nonneg hq, Rat.floor_intCast_div_natCast, Int.tdiv_eq_ediv_of_nonneg hn]
  · have hq : (n / d : ℚ) ≤ 0 := div_nonpos_of_nonpos_of_nonneg (by exact_mod_cast hn) (Nat.cast_nonneg d)
    rw [truncate_of_nonpos hq, Rat.ceil_intCast_div_natCast,
      ← Int.tdiv_eq_ediv_of_nonneg (Int.neg_nonneg_of_nonpos hn), Int.neg_tdiv, Int.neg_neg]

theorem truncate_mono {p q : ℚ} (h : p ≤ q) : truncate p ≤ truncate q := by
  rcases le_total 0 p with hp | hp
  · rw [truncate_of_nonneg hp, truncate_of_nonneg (hp.trans h)]
    exact Int.floor_le_floor h
  · rcases le_total 0 q with hq | hq
    · -- zero is between them
      rw [truncate_of_nonpos hp, truncate_of_nonneg hq]
      exact (Int.ceil_nonpos.mpr hp).trans (Int.floor_nonneg.mpr hq)
    · rw [truncate_of_nonpos hp, truncate_of_nonpos hq]
      exact Int.ceil_le_ceil h

theorem abs_truncate_le (q : ℚ) : |(truncate q : ℚ)| ≤ |q| := by
  rcases le_total 0 q with hq | hq
  · have hfloor : (0 : ℚ) ≤ ⌊q⌋ := by exact_mod_cast Int.floor_nonneg.mpr hq
    rw [truncate_of_nonneg hq, abs_of_nonneg hfloor, abs_of_nonneg hq]
    exact Int.floor_le q
  · have hceil : (⌈q⌉ : ℚ) ≤ 0 := by exact_mod_cast Int.ceil_nonpos.mpr hq
    rw [truncate_of_nonpos hq, abs_of_nonpos hceil, abs_of_nonpos hq]
    exact neg_le_neg (Int.le_ceil q)

theorem abs_sub_truncate_lt_one (q : ℚ) : |q - truncate q| < 1 := by
  rcases le_total 0 q with hq | hq
  · have hlow := Int.floor_le q
    have hhigh := Int.lt_floor_add_one q
    rw [truncate_of_nonneg hq, abs_lt]
    constructor
    · linarith
    · linarith
  · have hlow := Int.le_ceil q
    have hhigh := Int.ceil_lt_add_one q
    rw [truncate_of_nonpos hq, abs_lt]
    constructor
    · linarith
    · linarith

end Truncation

import Mathlib.Algebra.Order.Ring.Int

/-!
# Two's-complement arithmetic

Signed machine integers of `2 * h` values, for any half-range `h`.  Where exact arithmetic yields `x`, a
machine step leaves `x.bmod (2 * h)`; division truncates towards zero.

* `bmod_of_fits`, `bmod_lt_of_le`, `lt_bmod_of_lt` — a step is exact on the values that fit, and moves every
  other value towards the opposite end of the range.
* `le_mul_tdiv_self_iff` — when truncating division does not round below its argument.
* `le_mul_tdiv_bmod_iff` — the same for a value that went through a machine step first.
-/

set_option autoImplicit false

namespace TwosComplement

/-- `x` is one of the `2 * h` representable values. -/
def Fits (h : Nat) (x : Int) : Prop := -(h : Int) ≤ x ∧ x < h

instance (h : Nat) (x : Int) : Decidable (Fits h x) := inferInstanceAs (Decidable (_ ∧ _))

section Wrap

variable {h : Nat} {x : Int}

/-- A machine step always leaves a representable value. -/
theorem fits_bmod (hh : 0 < h) (x : Int) : Fits h (x.bmod (2 * h)) := by
  have hlow : -(((2 * h : Nat) : Int) / 2) ≤ x.bmod (2 * h) := Int.le_bmod (by omega)
  have hhigh : x.bmod (2 * h) < ((2 * h : Nat) + 1 : Int) / 2 := Int.bmod_lt (by omega)
  unfold Fits
  omega

/-- On a representable value it is exact. -/
theorem bmod_of_fits (hx : Fits h x) : x.bmod (2 * h) = x := by
  obtain ⟨hlow, hhigh⟩ := hx
  apply Int.bmod_eq_of_le_mul_two
  · push_cast
    omega
  · push_cast
    omega

/-- Above the range the value drops. -/
theorem bmod_lt_of_le (hh : 0 < h) (hx : (h : Int) ≤ x) : x.bmod (2 * h) < x :=
  lt_of_lt_of_le (fits_bmod hh x).2 hx

/-- Below the range it rises. -/
theorem lt_bmod_of_lt (hh : 0 < h) (hx : x < -(h : Int)) : x < x.bmod (2 * h) :=
  lt_of_lt_of_le hx (fits_bmod hh x).1

end Wrap

section Truncation

variable {D x : Int}

theorem mul_tdiv_self_nonneg (D : Int) (hx : 0 ≤ x) : 0 ≤ D * x.tdiv D := by
  rcases le_total 0 D with hD | hD
  · exact Int.mul_nonneg hD (Int.tdiv_nonneg hx hD)
  · exact Int.mul_nonneg_of_nonpos_of_nonpos hD (Int.tdiv_nonpos_of_nonneg_of_nonpos hx hD)

/-- Truncation moves a value towards zero and never past it. -/
theorem mul_tdiv_self_le_max (D x : Int) : D * x.tdiv D ≤ max x 0 := by
  rcases le_total 0 x with hx | hx
  · exact le_max_of_le_left (Int.mul_tdiv_self_le hx)
  · have hneg := mul_tdiv_self_nonneg D (Int.neg_nonneg_of_nonpos hx)
    rw [Int.neg_tdiv, Int.mul_neg] at hneg
    exact le_max_of_le_right (by omega)

theorem min_le_mul_tdiv_self (D x : Int) : min x 0 ≤ D * x.tdiv D := by
  have hmax := mul_tdiv_self_le_max D (-x)
  rw [Int.neg_tdiv, Int.mul_neg] at hmax
  omega

/-- Truncating division stays at or above its argument unless it drops a positive remainder. -/
theorem le_mul_tdiv_self_iff : x ≤ D * x.tdiv D ↔ x ≤ 0 ∨ D ∣ x := by
  constructor
  · intro hle
    rcases lt_or_ge 0 x with hx | hx
    · have heq : D * x.tdiv D = x := le_antisymm (Int.mul_tdiv_self_le (by omega)) hle
      exact .inr ⟨x.tdiv D, heq.symm⟩
    · exact .inl hx
  · rintro (hx | hdvd)
    · have hmin := min_le_mul_tdiv_self D x
      omega
    · exact le_of_eq (Int.mul_tdiv_cancel' hdvd).symm

/-- A quotient by a positive divisor is representable where the dividend is. -/
theorem fits_tdiv {h : Nat} (hx : Fits h x) (hD : 0 < D) : Fits h (x.tdiv D) := by
  obtain ⟨hlow, hhigh⟩ := hx
  rcases le_total 0 x with hpos | hneg
  · have hnonneg : 0 ≤ x.tdiv D := Int.tdiv_nonneg hpos (by omega)
    have hle : x.tdiv D ≤ x := Int.tdiv_le_self D hpos
    exact ⟨by omega, by omega⟩
  · have hnonneg : 0 ≤ (-x).tdiv D := Int.tdiv_nonneg (by omega) (by omega)
    have hle : (-x).tdiv D ≤ -x := Int.tdiv_le_self D (by omega)
    rw [Int.neg_tdiv] at hnonneg hle
    exact ⟨by omega, by omega⟩

/-- A factor is representable where the product with a positive number is. -/
theorem fits_of_mul {h : Nat} (hD : 0 < D) (hx : Fits h (x * D)) : Fits h x := by
  have hcancel : (x * D).tdiv D = x := Int.mul_tdiv_cancel x hD.ne'
  have hfits := fits_tdiv hx hD
  rwa [hcancel] at hfits

/-- A value that went through a machine step and is then divided comes back at or above what it was exactly
when it did not exceed the range and the division drops no positive remainder.  Values below the range
come back above themselves. -/
theorem le_mul_tdiv_bmod_iff {h : Nat} (hh : 0 < h) :
    x ≤ D * (x.bmod (2 * h)).tdiv D ↔ x < h ∧ (x ≤ 0 ∨ D ∣ x) := by
  rcases lt_or_ge x h with hhigh | hhigh
  · rcases lt_or_ge x (-(h : Int)) with hlow | hlow
    · -- the value rises, and truncation takes it no lower than itself or zero
      have hrise := lt_bmod_of_lt hh hlow
      have hmin := min_le_mul_tdiv_self D (x.bmod (2 * h))
      exact iff_of_true (by omega) ⟨hhigh, .inl (by omega)⟩
    · rw [bmod_of_fits ⟨hlow, hhigh⟩, le_mul_tdiv_self_iff]
      exact (and_iff_right hhigh).symm
  · have hdrop := bmod_lt_of_le hh hhigh
    have hmax := mul_tdiv_self_le_max D (x.bmod (2 * h))
    exact iff_of_false (by omega) fun hcond => by omega

end Truncation

end TwosComplement

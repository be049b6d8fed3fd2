import Mathlib.Algebra.Order.Ring.Int
import Mathlib.Data.Prod.Lex

/-!
# Splitting an integer into whole units and a remainder

`IsSplit b n q r` says that `n` is `q` units of size `b` and a remainder `r` with `0 ≤ r < b`.

* `IsSplit.unique` — there is one split, that of floor division (`IsSplit.quotient_eq`).
* `IsSplit.lt_iff` — integers compare as their splits do, the quotients first.
* `isSplit_corrected` — truncating division yields the split after a correction by one unit where it leaves
  a negative remainder.
-/

set_option autoImplicit false

namespace FloorSplit

/-- `n` is `q` units of size `b` and a remainder `r`. -/
structure IsSplit (b n q r : Int) : Prop where
  sum : q * b + r = n
  nonneg : 0 ≤ r
  lt : r < b

namespace IsSplit

variable {b n n' q q' r r' : Int}

theorem pos (h : IsSplit b n q r) : 0 < b := lt_of_le_of_lt h.nonneg h.lt

/-- The split is that of floor division. -/
theorem divMod_eq (h : IsSplit b n q r) : n / b = q ∧ n % b = r := by
  apply (Int.ediv_emod_unique h.pos).mpr
  refine ⟨?_, h.nonneg, h.lt⟩
  rw [Int.mul_comm b q, Int.add_comm]
  exact h.sum

theorem quotient_eq (h : IsSplit b n q r) : q = n / b := h.divMod_eq.1.symm

theorem remainder_eq (h : IsSplit b n q r) : r = n % b := h.divMod_eq.2.symm

/-- There is one split. -/
theorem unique (h : IsSplit b n q r) (h' : IsSplit b n q' r') : q = q' ∧ r = r' :=
  ⟨h.quotient_eq.trans h'.quotient_eq.symm, h.remainder_eq.trans h'.remainder_eq.symm⟩

/-- A smaller quotient is a smaller integer, whatever the remainders. -/
theorem lt_of_quotient_lt (h : IsSplit b n q r) (h' : IsSplit b n' q' r') (hq : q < q') : n < n' := by
  have hunit : (q + 1) * b ≤ q' * b := Int.mul_le_mul_of_nonneg_right hq h.pos.le
  have hsum := h.sum
  have hsum' := h'.sum
  have hlt := h.lt
  have hnonneg := h'.nonneg
  rw [Int.add_mul, Int.one_mul] at hunit
  omega

/-- Integers compare as their splits do. -/
theorem lt_iff (h : IsSplit b n q r) (h' : IsSplit b n' q' r') :
    n < n' ↔ toLex (q, r) < toLex (q', r') := by
  rw [Prod.Lex.toLex_lt_toLex]
  rcases lt_trichotomy q q' with hq | hq | hq
  · exact iff_of_true (h.lt_of_quotient_lt h' hq) (.inl hq)
  · -- in the same unit the remainders decide
    subst hq
    have hsum := h.sum
    have hsum' := h'.sum
    have hiff : n < n' ↔ r < r' := by omega
    simpa using hiff
  · have hgt := h'.lt_of_quotient_lt h hq
    refine iff_of_false (by omega) ?_
    rintro (hlt | ⟨heq, -⟩)
    · exact absurd hlt (by omega)
    · exact absurd heq (by omega)

end IsSplit

/-- Truncating division leaves a remainder of less than one unit, of either sign. -/
theorem truncated_bounds {b : Int} (hb : 0 < b) (n : Int) :
    -b < n - n.tdiv b * b ∧ n - n.tdiv b * b < b := by
  have hmod := Int.tdiv_mul_add_tmod n b
  have hhigh := Int.tmod_lt_of_pos n hb
  have hlow := Int.lt_tmod_of_pos n hb
  omega

/-- **Truncate and correct.**  Where truncating division leaves a negative remainder, one unit moves from
the quotient to the remainder. -/
theorem isSplit_corrected {b : Int} (hb : 0 < b) (n : Int) :
    if n - n.tdiv b * b < 0 then IsSplit b n (n.tdiv b - 1) (n - n.tdiv b * b + b)
    else IsSplit b n (n.tdiv b) (n - n.tdiv b * b) := by
  obtain ⟨hlow, hhigh⟩ := truncated_bounds hb n
  split
  · next hneg =>
      refine ⟨?_, by omega, by omega⟩
      rw [Int.sub_mul, Int.one_mul]
      omega
  · next hneg => exact ⟨by omega, by omega, hhigh⟩

end FloorSplit

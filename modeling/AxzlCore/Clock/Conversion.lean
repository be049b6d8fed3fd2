import AxzlCore.Clock.ClockUtility
import AxzlCore.Library.TwosComplement
import Mathlib.Algebra.Order.Field.Rat
import Mathlib.Tactic.FieldSimp
import Mathlib.Tactic.LinearCombination
import Mathlib.Tactic.Ring

/-!
# The clock conversions in 64-bit arithmetic

What the conversions of `ClockUtility.hpp` compute when their steps are done in two's complement, compared
with exact rational time.

* `durationCast_count` — `duration_cast` is one multiplication, reduced to 64 bits, and one truncating
  division.
* `castNum_mul`, `value_eq_cast` — the two factors are the exact ratio of the periods.
* `splitNanos_value` — the split into seconds and nanoseconds is exact on every 64-bit count.
-/

set_option autoImplicit false

namespace AxzlCore

open TwosComplement

/-- The values of a signed 64-bit integer. -/
abbrev Fits64 (x : Int) : Prop := Fits (2 ^ 63) x

theorem fits_wrap64 (x : Int) : Fits64 (wrap64 x) := fits_bmod (by norm_num) x

theorem wrap64_of_fits {x : Int} (hx : Fits64 x) : wrap64 x = x := bmod_of_fits hx

/-- Only the last of the sums is reduced, as far as its value is concerned. -/
theorem wrap64_add (x y : Int) : wrap64 (wrap64 x + wrap64 y) = wrap64 (x + y) := by
  unfold wrap64
  rw [Int.bmod_add_bmod, Int.add_bmod_bmod]

theorem le_mul_tdiv_wrap64_iff {D x : Int} :
    x ≤ D * (wrap64 x).tdiv D ↔ x < 2 ^ 63 ∧ (x ≤ 0 ∨ D ∣ x) := by
  have hiff := le_mul_tdiv_bmod_iff (h := 2 ^ 63) (D := D) (x := x) (by norm_num)
  push_cast at hiff
  exact hiff

/-! ## `duration_cast` as one multiplication and one division -/

/-- The reduced ratio of two periods: what `duration_cast` multiplies by. -/
def castNum (p target : Period) : Nat :=
  (p.num * target.den) / (p.num * target.den).gcd (p.den * target.num)

/-- And what it divides by. -/
def castDen (p target : Period) : Nat :=
  (p.den * target.num) / (p.num * target.den).gcd (p.den * target.num)

section Cast

variable {p q target : Period} {d : Duration}

theorem castDen_pos (p target : Period) : 0 < castDen p target :=
  Nat.div_gcd_pos_of_pos_right _ (Nat.mul_pos p.den_pos target.num_pos)

/-- The two are the ratio of the periods. -/
theorem castNum_mul (p target : Period) :
    castNum p target * (p.den * target.num) = castDen p target * (p.num * target.den) := by
  unfold castNum castDen
  generalize p.num * target.den = a, p.den * target.num = b
  have ha : a / a.gcd b * a.gcd b = a := Nat.div_mul_cancel (Nat.gcd_dvd_left a b)
  have hb : b / a.gcd b * a.gcd b = b := Nat.div_mul_cancel (Nat.gcd_dvd_right a b)
  calc a / a.gcd b * b = a / a.gcd b * (b / a.gcd b * a.gcd b) := by rw [hb]
    _ = b / a.gcd b * (a / a.gcd b * a.gcd b) := Nat.mul_left_comm _ _ _
    _ = b / a.gcd b * a := by rw [ha]

theorem castDen_eq_one (h : p.den * target.num ∣ p.num * target.den) : castDen p target = 1 := by
  unfold castDen
  rw [Nat.gcd_eq_right h]
  exact Nat.div_self (Nat.mul_pos p.den_pos target.num_pos)

theorem castNum_eq_one (h : p.num * target.den ∣ p.den * target.num) : castNum p target = 1 := by
  unfold castNum
  rw [Nat.gcd_eq_left h]
  exact Nat.div_self (Nat.mul_pos p.num_pos target.den_pos)

/-- A cast to the common period of two durations never divides. -/
theorem castDen_common_left (p q : Period) : castDen p (p.common q) = 1 := by
  apply castDen_eq_one
  rw [Nat.mul_comm p.num]
  exact Nat.mul_dvd_mul (Nat.dvd_lcm_left _ _) (Nat.gcd_dvd_left _ _)

theorem castDen_common_right (p q : Period) : castDen q (p.common q) = 1 := by
  apply castDen_eq_one
  rw [Nat.mul_comm q.num]
  exact Nat.mul_dvd_mul (Nat.dvd_lcm_right _ _) (Nat.gcd_dvd_right _ _)

/-- A cast back from the common period never multiplies. -/
theorem castNum_common (p q : Period) : castNum (p.common q) p = 1 := by
  apply castNum_eq_one
  rw [Nat.mul_comm (Period.common _ _).num]
  exact Nat.mul_dvd_mul (Nat.dvd_lcm_left _ _) (Nat.gcd_dvd_left _ _)

theorem durationCast_count (target : Period) (hd : Fits64 d.count) :
    (durationCast target d).count =
      (wrap64 (d.count * castNum d.period target)).tdiv (castDen d.period target) := by
  unfold durationCast castNum castDen
  simp only [Int.natCast_ediv, Int.natCast_mul]
  split
  · next hden =>
      rw [hden, Int.tdiv_one]
      split
      · next hnum => rw [hnum, Int.mul_one, wrap64_of_fits hd]
      · rfl
  · split
    · next hnum => rw [hnum, Int.mul_one, wrap64_of_fits hd]
    · rfl

/-- To the common period of two durations both casts are a single product. -/
theorem durationCast_common_left (q : Period) (hd : Fits64 d.count) :
    (durationCast (d.period.common q) d).count =
      wrap64 (d.count * castNum d.period (d.period.common q)) := by
  rw [durationCast_count _ hd, castDen_common_left, Int.natCast_one, Int.tdiv_one]

theorem durationCast_common_right (p : Period) (hd : Fits64 d.count) :
    (durationCast (p.common d.period) d).count =
      wrap64 (d.count * castNum d.period (p.common d.period)) := by
  rw [durationCast_count _ hd, castDen_common_right, Int.natCast_one, Int.tdiv_one]

/-- The product `duration_cast` forms in 64-bit integers, exactly; with a ratio of one over something it only
divides. -/
def castProducts (target : Period) (d : Duration) : List Int :=
  if castNum d.period target = 1 then [] else [d.count * castNum d.period target]

theorem fits_castProducts_iff (target : Period) (hd : Fits64 d.count) :
    (∀ x ∈ castProducts target d, Fits64 x) ↔ Fits64 (d.count * castNum d.period target) := by
  unfold castProducts
  split
  · next hnum =>
      rw [hnum, Int.natCast_one, Int.mul_one]
      exact iff_of_true (by simp) hd
  · simp

end Cast

/-! ## Exact times -/

/-- The length of a duration in seconds. -/
def Duration.value (d : Duration) : ℚ := d.count * (d.period.num / d.period.den)

/-- The time a `timespec` stands for, in seconds. -/
def Timespec.value (ts : Timespec) : ℚ := ts.tvSec + ts.tvNsec / 1000000000

/-- A duration in the units of another period. -/
theorem value_eq_cast (d : Duration) (target : Period) :
    d.value = d.count * castNum d.period target / castDen d.period target *
      (target.num / target.den) := by
  have hratio : (castNum d.period target * (d.period.den * target.num) : ℚ) =
      castDen d.period target * (d.period.num * target.den) := by
    exact_mod_cast castNum_mul d.period target
  have hden : (d.period.den : ℚ) ≠ 0 := by exact_mod_cast d.period.den_pos.ne'
  have htarget : (target.den : ℚ) ≠ 0 := by exact_mod_cast target.den_pos.ne'
  have hcast : (castDen d.period target : ℚ) ≠ 0 := by exact_mod_cast (castDen_pos _ _).ne'
  unfold Duration.value
  field_simp
  linear_combination (-d.count : ℚ) * hratio

/-! ## The split into seconds and nanoseconds -/

section Split

variable {n : Int}

theorem seconds_of_nano (hn : Fits64 n) :
    (durationCast .second ⟨n, .nano⟩).count = n.tdiv 1000000000 := by
  rw [durationCast_count .second (d := ⟨n, .nano⟩) hn]
  have hnum : castNum .nano .second = 1 := by decide
  have hden : castDen .nano .second = 1000000000 := by decide
  simp only [hnum, hden]
  rw [Int.natCast_one, Int.mul_one, wrap64_of_fits hn]
  rfl

/-- Truncation splits off whole seconds, and less than one second remains. -/
theorem seconds_bounds (n : Int) :
    min n 0 ≤ n.tdiv 1000000000 * 1000000000 ∧ n.tdiv 1000000000 * 1000000000 ≤ max n 0 ∧
      -1000000000 < n - n.tdiv 1000000000 * 1000000000 ∧
      n - n.tdiv 1000000000 * 1000000000 < 1000000000 := by
  have hmin := min_le_mul_tdiv_self 1000000000 n
  have hmax := mul_tdiv_self_le_max 1000000000 n
  have hpos : n < 1000000000 * n.tdiv 1000000000 + 1000000000 := Int.lt_mul_tdiv_self_add (by decide)
  have hneg : -n < 1000000000 * (-n).tdiv 1000000000 + 1000000000 := Int.lt_mul_tdiv_self_add (by decide)
  rw [Int.neg_tdiv] at hneg
  omega

/-- `DurationToTimespec` after the cast to nanoseconds. -/
def splitNanos (n : Int) : Timespec :=
  let secs := (durationCast .second ⟨n, .nano⟩).count
  let nsecs := wrap64 (n - wrap64 (secs * 1000000000))
  if nsecs < 0 then
    ⟨wrap64 (secs - 1), wrap64 (nsecs + 1000000000)⟩
  else
    ⟨secs, nsecs⟩

theorem durationToTimespec_eq (tp : TimePoint) :
    durationToTimespec tp = splitNanos (durationCast .nano tp.sinceEpoch).count := rfl

/-- What its signed steps yield before they are reduced to 64 bits. -/
def splitSteps (n : Int) : List Int :=
  let secs := (durationCast .second ⟨n, .nano⟩).count
  let nsecs := wrap64 (n - wrap64 (secs * 1000000000))
  [secs * 1000000000, n - wrap64 (secs * 1000000000)] ++
    if nsecs < 0 then [secs - 1, nsecs + 1000000000] else []

/-- None of them leaves the 64-bit range. -/
theorem fits_splitSteps (hn : Fits64 n) : ∀ x ∈ splitSteps n, Fits64 x := by
  obtain ⟨hmin, hmax, hlow, hhigh⟩ := seconds_bounds n
  unfold splitSteps
  simp only [seconds_of_nano hn]
  generalize n.tdiv 1000000000 = secs at *
  unfold Fits64 Fits at hn
  have hsecs : Fits64 (secs * 1000000000) := ⟨by omega, by omega⟩
  have hnsecs : Fits64 (n - secs * 1000000000) := ⟨by omega, by omega⟩
  rw [wrap64_of_fits hsecs, wrap64_of_fits hnsecs]
  simp only [List.forall_mem_append, List.forall_mem_cons]
  refine ⟨⟨hsecs, hnsecs, by simp⟩, fun x hx => ?_⟩
  split at hx
  · simp only [List.mem_cons, List.not_mem_nil, or_false] at hx
    rcases hx with rfl | rfl
    · exact ⟨by omega, by omega⟩
    · exact ⟨by omega, by omega⟩
  · cases hx

/-- So the `timespec` stands for exactly the nanoseconds it was split from. -/
theorem splitNanos_value (hn : Fits64 n) : (splitNanos n).value = n / 1000000000 := by
  have hsteps := fits_splitSteps hn
  unfold splitSteps at hsteps
  unfold splitNanos
  generalize (durationCast .second ⟨n, .nano⟩).count = secs at *
  simp only [List.forall_mem_append, List.forall_mem_cons] at hsteps
  obtain ⟨⟨hsecs, hnsecs, -⟩, hneg⟩ := hsteps
  simp only [wrap64_of_fits hsecs] at hnsecs hneg ⊢
  simp only [wrap64_of_fits hnsecs] at hneg ⊢
  split
  · next hlt =>
      rw [if_pos hlt] at hneg
      simp only [List.forall_mem_cons] at hneg
      rw [wrap64_of_fits hneg.1, wrap64_of_fits hneg.2.1]
      unfold Timespec.value
      push_cast
      ring
  · unfold Timespec.value
    push_cast
    ring

end Split

end AxzlCore

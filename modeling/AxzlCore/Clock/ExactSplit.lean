import AxzlCore.Clock.Conversion
import AxzlCore.Library.FloorSplit
import Mathlib.Data.Nat.Cast.Field

/-!
# The split into seconds and nanoseconds

`DurationToTimespec` truncates to seconds and moves one second to the remainder where that is negative.  On
a time point that is a whole number of nanoseconds, and whose nanoseconds fit 64 bits, the result is the
floor split of these nanoseconds.

* `splitNanos_isSplit` — the part of the function after the cast, on every 64-bit count.
* `nanos_eq_of_whole` — the cast before it is exact.
* `durationToTimespec_splits` — the two together.
-/

set_option autoImplicit false

namespace AxzlCore

open FloorSplit TwosComplement

/-- The period is a whole number of nanoseconds. -/
def Period.WholeNanos (p : Period) : Prop := p.den ∣ p.num * 1000000000

instance (p : Period) : Decidable p.WholeNanos := inferInstanceAs (Decidable (_ ∣ _))

/-- The value of a time point in nanoseconds, when its period is a whole number of them. -/
def TimePoint.nanos (tp : TimePoint) : Int :=
  tp.sinceEpoch.count * ((tp.sinceEpoch.period.num * 1000000000 / tp.sinceEpoch.period.den : Nat) : Int)

/-- The exact results of all signed steps of `DurationToTimespec`: the cast to nanoseconds, the split and
its correction, with the conversion of `seconds(1)` made for that. -/
def timespecSteps (tp : TimePoint) : List Int :=
  castProducts .nano tp.sinceEpoch ++ splitSteps (durationCast .nano tp.sinceEpoch).count ++
    castProducts .nano ⟨1, .second⟩

/-- The `timespec` of a time point is the floor split of its nanoseconds: normalised, the only such split,
strictly monotone, and computed without overflow. -/
structure SplitsExactly (tp : TimePoint) : Prop where
  isSplit : IsSplit 1000000000 tp.nanos (durationToTimespec tp).tvSec (durationToTimespec tp).tvNsec
  unique : ∀ ts : Timespec, IsSplit 1000000000 tp.nanos ts.tvSec ts.tvNsec → ts = durationToTimespec tp
  monotone : ∀ tp' : TimePoint, tp'.sinceEpoch.period.WholeNanos → Fits64 tp'.nanos →
    tp.nanos < tp'.nanos → toLex ((durationToTimespec tp).tvSec, (durationToTimespec tp).tvNsec) <
      toLex ((durationToTimespec tp').tvSec, (durationToTimespec tp').tvNsec)
  noOverflow : ∀ x ∈ timespecSteps tp, Fits64 x

/-! ## The cast to nanoseconds -/

section Cast

variable {tp : TimePoint}

/-- `nanos` is the exact value of the time point. -/
theorem nanos_value (hwhole : tp.sinceEpoch.period.WholeNanos) :
    tp.sinceEpoch.value = tp.nanos / 1000000000 := by
  have hden : (tp.sinceEpoch.period.den : ℚ) ≠ 0 := by exact_mod_cast tp.sinceEpoch.period.den_pos.ne'
  unfold Duration.value TimePoint.nanos
  rw [Int.cast_mul, Int.cast_natCast, Nat.cast_div hwhole hden]
  push_cast
  field_simp

/-- The factor of the cast is the number of nanoseconds in the period. -/
theorem castNum_of_whole {p : Period} (hwhole : p.WholeNanos) :
    castNum p .nano = p.num * 1000000000 / p.den := by
  have hgcd : (p.num * 1000000000).gcd (p.den * 1) = p.den := by
    rw [Nat.mul_one]
    exact Nat.gcd_eq_right hwhole
  exact congrArg (p.num * 1000000000 / ·) hgcd

theorem castDen_of_whole {p : Period} (hwhole : p.WholeNanos) : castDen p .nano = 1 := by
  apply castDen_eq_one
  show p.den * 1 ∣ p.num * 1000000000
  rw [Nat.mul_one]
  exact hwhole

theorem castNum_pos (p : Period) : 0 < castNum p .nano :=
  Nat.div_gcd_pos_of_pos_left _ (Nat.mul_pos p.num_pos (Period.den_pos _))

theorem nanos_eq_castNum (hwhole : tp.sinceEpoch.period.WholeNanos) :
    tp.nanos = tp.sinceEpoch.count * castNum tp.sinceEpoch.period .nano := by
  rw [castNum_of_whole hwhole]
  rfl

/-- A count is no larger than what it is in nanoseconds. -/
theorem fits_count (hwhole : tp.sinceEpoch.period.WholeNanos) (hn : Fits64 tp.nanos) :
    Fits64 tp.sinceEpoch.count := by
  rw [nanos_eq_castNum hwhole] at hn
  exact fits_of_mul (by exact_mod_cast castNum_pos tp.sinceEpoch.period) hn

/-- The cast is exact. -/
theorem nanos_eq_of_whole (hwhole : tp.sinceEpoch.period.WholeNanos) (hn : Fits64 tp.nanos) :
    (durationCast .nano tp.sinceEpoch).count = tp.nanos := by
  rw [durationCast_count .nano (fits_count hwhole hn), castDen_of_whole hwhole,
    ← nanos_eq_castNum hwhole, wrap64_of_fits hn]
  exact Int.tdiv_one _

end Cast

/-! ## The split -/

/-- After the cast, the result is the floor split of the count, whatever 64-bit count it is. -/
theorem splitNanos_isSplit {n : Int} (hn : Fits64 n) :
    IsSplit 1000000000 n (splitNanos n).tvSec (splitNanos n).tvNsec := by
  have hsteps := fits_splitSteps hn
  have hcorrected := isSplit_corrected (b := 1000000000) (by decide) n
  unfold splitSteps at hsteps
  unfold splitNanos
  rw [seconds_of_nano hn] at hsteps ⊢
  generalize n.tdiv 1000000000 = secs at *
  simp only [List.forall_mem_append, List.forall_mem_cons] at hsteps
  obtain ⟨⟨hsecs, hnsecs, -⟩, hneg⟩ := hsteps
  -- every step fits, so the machine computes what truncation and correction compute
  simp only [wrap64_of_fits hsecs] at hnsecs hneg ⊢
  simp only [wrap64_of_fits hnsecs] at hneg ⊢
  split
  · next hlt =>
      rw [if_pos hlt] at hneg hcorrected
      simp only [List.forall_mem_cons] at hneg
      rw [wrap64_of_fits hneg.1, wrap64_of_fits hneg.2.1]
      exact hcorrected
  · next hge =>
      rw [if_neg hge] at hcorrected
      exact hcorrected

/-- The `timespec` of a time point is the floor split of its nanoseconds. -/
theorem durationToTimespec_isSplit {tp : TimePoint} (hwhole : tp.sinceEpoch.period.WholeNanos)
    (hn : Fits64 tp.nanos) :
    IsSplit 1000000000 tp.nanos (durationToTimespec tp).tvSec (durationToTimespec tp).tvNsec := by
  rw [durationToTimespec_eq, nanos_eq_of_whole hwhole hn]
  exact splitNanos_isSplit hn

/-- Two `timespec`s that split the same number are equal. -/
theorem timespec_unique {n : Int} {ts ts' : Timespec} (h : IsSplit 1000000000 n ts.tvSec ts.tvNsec)
    (h' : IsSplit 1000000000 n ts'.tvSec ts'.tvNsec) : ts = ts' := by
  obtain ⟨hsecs, hnsecs⟩ := h.unique h'
  cases ts
  cases ts'
  exact congrArg₂ Timespec.mk hsecs hnsecs

/-- No step of the conversion overflows. -/
theorem fits_timespecSteps {tp : TimePoint} (hwhole : tp.sinceEpoch.period.WholeNanos)
    (hn : Fits64 tp.nanos) : ∀ x ∈ timespecSteps tp, Fits64 x := by
  have hcast := (fits_castProducts_iff .nano (fits_count hwhole hn)).mpr
    (by rwa [← nanos_eq_castNum hwhole])
  unfold timespecSteps
  rw [nanos_eq_of_whole hwhole hn, List.forall_mem_append, List.forall_mem_append]
  exact ⟨⟨hcast, fits_splitSteps hn⟩, by decide⟩

/-- **`DurationToTimespec` is the floor split.**  For every time point whose period is a whole number of
nanoseconds and whose nanoseconds fit 64 bits, on either side of the epoch. -/
theorem durationToTimespec_splits {tp : TimePoint} (hwhole : tp.sinceEpoch.period.WholeNanos)
    (hn : Fits64 tp.nanos) : SplitsExactly tp where
  isSplit := durationToTimespec_isSplit hwhole hn
  unique := fun _ hsplit => timespec_unique hsplit (durationToTimespec_isSplit hwhole hn)
  monotone := by
    intro tp' hwhole' hn' hlt
    have hiff := (durationToTimespec_isSplit hwhole hn).lt_iff (durationToTimespec_isSplit hwhole' hn')
    exact hiff.mp hlt
  noOverflow := fits_timespecSteps hwhole hn

/-- The lowest 64-bit count of nanoseconds, before the epoch. -/
theorem durationToTimespec_splits_lowest :
    durationToTimespec ⟨.systemClock, ⟨-(2 ^ 63), .nano⟩⟩ = ⟨-9223372037, 145224192⟩ ∧
      SplitsExactly ⟨.systemClock, ⟨-(2 ^ 63), .nano⟩⟩ := by
  have hwhole : Period.nano.WholeNanos := by decide
  have hfits : Fits64 (TimePoint.nanos ⟨.systemClock, ⟨-(2 ^ 63), .nano⟩⟩) := by decide
  exact ⟨by decide +kernel, durationToTimespec_splits hwhole hfits⟩

end AxzlCore

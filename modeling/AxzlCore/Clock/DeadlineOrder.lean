import AxzlCore.Clock.Deadlines
import AxzlCore.Clock.ExactSplit
import AxzlCore.Library.Truncation

/-!
# The order of deadlines

The operations of both classes name their deadlines in any periods, relative to a clock or absolute, and the
OS compares `timespec`s, the seconds first.  As long as no step wraps, a deadline is the time asked for,
truncated to nanoseconds toward the epoch, so that deadlines never change places.

* `deadline_truncated` — the deadline of a request.
* `deadlines_in_order` — for any two timed operations.
-/

set_option autoImplicit false

namespace AxzlCore

open FloorSplit Truncation TwosComplement

namespace Request

/-- The time asked for, in nanoseconds. -/
def nanos (r : Request) : ℚ := r.requested * 1000000000

/-- Ticks that are not reduced are the time asked for. -/
theorem truncate_nanos {r : Request} (hrep : r.Representable) :
    (wrap64 r.ticks).tdiv r.ticksPerNano = truncate r.nanos := by
  have hnanos : r.nanos = r.ticks / r.ticksPerNano := by
    unfold nanos
    rw [requested_eq]
    ring
  rw [wrap64_of_fits hrep.2, tdiv_eq_truncate, hnanos]

/-- The deadline is the time asked for, truncated to nanoseconds, as the OS wants it. -/
theorem deadline_truncated {r : Request} (hr : r.InRange) (hrep : r.Representable) :
    IsSplit 1000000000 (truncate r.nanos) r.deadline.tvSec r.deadline.tvNsec := by
  have hsplit := splitNanos_isSplit (fits_nanos hr)
  rw [nanos_eq hr, truncate_nanos hrep] at hsplit
  rw [deadline, durationToTimespec_eq, nanos_eq hr, truncate_nanos hrep]
  exact hsplit

theorem deadline_value_truncated {r : Request} (hr : r.InRange) (hrep : r.Representable) :
    r.deadline.value = truncate r.nanos / 1000000000 := by
  rw [deadline_value hr, truncate_nanos hrep]

theorem requested_eq_nanos (r : Request) : r.requested = r.nanos / 1000000000 := by
  unfold nanos
  ring

end Request

/-- **Deadlines keep their order.**  Take any two timed operations of the classes, whatever the periods of
their arguments, neither of which wraps: each hands the OS a `timespec` less than a nanosecond from the
time it was asked for and on the side of the epoch, with normalised nanoseconds; and if the first was asked for
a time no later than the second, the OS sees the first deadline no later than the second. -/
theorem deadlines_in_order {op op' : TimedOp} {r r' : Request} (hop : op.request = some r)
    (hop' : op'.request = some r') (hr : r.InRange) (hr' : r'.InRange) (hrep : r.Representable)
    (hrep' : r'.Representable) (hle : r.requested ≤ r'.requested) :
    ∃ ts ts', op.osDeadline = some ts ∧ op'.osDeadline = some ts' ∧
      toLex (ts.tvSec, ts.tvNsec) ≤ toLex (ts'.tvSec, ts'.tvNsec) ∧
      |r.requested - ts.value| < 1 / 1000000000 ∧ |ts.value| ≤ |r.requested| ∧
      0 ≤ ts.tvNsec ∧ ts.tvNsec < 1000000000 := by
  have hsplit := Request.deadline_truncated hr hrep
  have hsplit' := Request.deadline_truncated hr' hrep'
  refine ⟨_, _, TimedOp.osDeadline_of_request hop, TimedOp.osDeadline_of_request hop', ?_, ?_, ?_,
    hsplit.nonneg, hsplit.lt⟩
  · have hnanos : r.nanos ≤ r'.nanos := mul_le_mul_of_nonneg_right hle (by norm_num)
    rw [← not_lt, ← hsplit'.lt_iff hsplit, not_lt]
    exact truncate_mono hnanos
  · rw [Request.requested_eq_nanos, Request.deadline_value_truncated hr hrep, ← sub_div, abs_div,
      abs_of_pos (by norm_num : (0 : ℚ) < 1000000000)]
    exact div_lt_div_of_pos_right (abs_sub_truncate_lt_one r.nanos) (by norm_num)
  · rw [Request.requested_eq_nanos, Request.deadline_value_truncated hr hrep, abs_div, abs_div]
    exact div_le_div_of_nonneg_right (abs_truncate_le r.nanos) (abs_nonneg _)

/-- A third of a second on a clock that counts thirds, and 400 milliseconds from a reading of zero. -/
theorem deadlines_in_order_thirds :
    ∃ op op' : TimedOp, op.osDeadline = some ⟨0, 333333333⟩ ∧ op'.osDeadline = some ⟨0, 400000000⟩ ∧
      ∃ ts ts', op.osDeadline = some ts ∧ op'.osDeadline = some ts' ∧
        toLex (ts.tvSec, ts.tvNsec) ≤ toLex (ts'.tvSec, ts'.tvNsec) := by
  let third : Period := ⟨1, 3, by decide, by decide, by decide⟩
  let milli : Period := ⟨1, 1000, by decide, by decide, by decide⟩
  have hop : (TimedOp.onCondition (.waitUntil ⟨.systemClock, ⟨1, third⟩⟩)).request =
      some (.upTo ⟨.systemClock, ⟨1, third⟩⟩) := rfl
  have hop' : (TimedOp.onMutex (.tryLockFor 0 ⟨400, milli⟩)).request = some (.within 0 ⟨400, milli⟩) := rfl
  have hle : (Request.upTo ⟨.systemClock, ⟨1, third⟩⟩).requested ≤
      (Request.within 0 ⟨400, milli⟩).requested := by
    simp only [Request.requested, Duration.value, steadyNow, third, milli]
    norm_num
  have hfits : Fits64 1 := by decide
  obtain ⟨ts, ts', hts, hts', hlex, -⟩ :=
    deadlines_in_order hop hop' hfits ⟨by decide, by decide⟩ (by decide) (by decide) hle
  exact ⟨_, _, by decide +kernel, by decide +kernel, ts, ts', hts, hts', hlex⟩

end AxzlCore

import Mathlib.Algebra.Order.Ring.Nat
import Mathlib.Data.Nat.Factors
import Mathlib.Algebra.Ring.Int.Defs

/-!
# `ClockUtility.hpp` and the `std::chrono` arithmetic it relies on

Durations and time points carry a 64-bit count and a compile-time period; every arithmetic step is done
in 64-bit two's complement, as the library computes it.

* `durationCast` — `std::chrono::duration_cast` between integer durations of any two periods.
* `TimePoint.add` — a clock reading plus a duration, in their common period.
* `clockId`, `durationToTimespec` — the two functions of the header.
-/

set_option autoImplicit false

namespace AxzlCore

/-- The value a 64-bit signed integer holds after an arithmetic step. -/
def wrap64 (x : Int) : Int := x.bmod (2 ^ 64)

/-- `std::ratio` in lowest terms. -/
structure Period where
  num : Nat
  den : Nat
  num_pos : 0 < num
  den_pos : 0 < den
  coprime : num.Coprime den

namespace Period

/-- `std::nano`. -/
def nano : Period := ⟨1, 1000000000, by decide, by decide, by decide⟩

/-- The period of `std::chrono::seconds`. -/
def second : Period := ⟨1, 1, by decide, by decide, by decide⟩

/-- The period of `std::chrono::hours`. -/
def hour : Period := ⟨3600, 1, by decide, by decide, by decide⟩

/-- The period of the common type of two durations: the coarsest one both convert to exactly. -/
def common (p q : Period) : Period where
  num := p.num.gcd q.num
  den := p.den.lcm q.den
  num_pos := Nat.gcd_pos_of_pos_left _ p.num_pos
  den_pos := Nat.lcm_pos p.den_pos q.den_pos
  coprime := by
    have hp : (p.num.gcd q.num).Coprime p.den :=
      Nat.Coprime.coprime_dvd_left (Nat.gcd_dvd_left _ _) p.coprime
    have hq : (p.num.gcd q.num).Coprime q.den :=
      Nat.Coprime.coprime_dvd_left (Nat.gcd_dvd_right _ _) q.coprime
    exact Nat.Coprime.coprime_dvd_right (Nat.lcm_dvd_mul _ _) (Nat.Coprime.mul_right hp hq)

end Period

/-- `std::chrono::duration` with a 64-bit count. -/
structure Duration where
  count : Int
  period : Period

/-- `duration_cast<duration<int64_t, target>>(d)`: multiply, divide, or both, by the reduced ratio of the two
periods. -/
def durationCast (target : Period) (d : Duration) : Duration :=
  let g := (d.period.num * target.den).gcd (d.period.den * target.num)
  let cfNum : Int := (d.period.num * target.den) / g
  let cfDen : Int := (d.period.den * target.num) / g
  let count :=
    if cfDen = 1 then
      if cfNum = 1 then d.count else wrap64 (d.count * cfNum)
    else if cfNum = 1 then
      d.count.tdiv cfDen
    else
      (wrap64 (d.count * cfNum)).tdiv cfDen
  ⟨count, target⟩

/-- The clocks `ClockId` accepts. -/
inductive Clock
  | steadyClock
  | systemClock
  | highResolutionClock
  deriving DecidableEq, Repr

/-- `std::chrono::time_point`. -/
structure TimePoint where
  clock : Clock
  sinceEpoch : Duration

/-- A time point plus a duration, computed in the common type of their durations. -/
def TimePoint.add (tp : TimePoint) (d : Duration) : TimePoint :=
  let period := tp.sinceEpoch.period.common d.period
  ⟨tp.clock, ⟨wrap64 ((durationCast period tp.sinceEpoch).count + (durationCast period d).count),
    period⟩⟩

/-- `steady_clock::now()` when the clock reads `now` nanoseconds. -/
def steadyNow (now : Int) : TimePoint := ⟨.steadyClock, ⟨now, Period.nano⟩⟩

/-- `clockid_t`. -/
inductive ClockIdT
  | clockMonotonic
  | clockRealtime
  deriving DecidableEq, Repr

/-- `ClockId`. -/
def clockId (tp : TimePoint) : ClockIdT :=
  match tp.clock with
  | .steadyClock => .clockMonotonic
  | .systemClock | .highResolutionClock => .clockRealtime

/-- `struct timespec`. -/
structure Timespec where
  tvSec : Int
  tvNsec : Int
  deriving DecidableEq, Repr

/-- `DurationToTimespec`. -/
def durationToTimespec (tp : TimePoint) : Timespec :=
  let toDurNs := durationCast Period.nano tp.sinceEpoch
  let secs := (durationCast Period.second toDurNs).count
  let nsecs := wrap64 (toDurNs.count - wrap64 (secs * 1000000000))
  if nsecs < 0 then
    ⟨wrap64 (secs - 1), wrap64 (nsecs + 1000000000)⟩
  else
    ⟨secs, nsecs⟩

end AxzlCore

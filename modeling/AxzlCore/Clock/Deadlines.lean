import AxzlCore.Clock.Conversion
import AxzlCore.ConditionVariable.Waits
import AxzlCore.Mutex.TracedOperations

/-!
# The deadlines the timed operations wait for

`TryLockFor` and `WaitFor` add a duration to a reading of the steady clock, `TryLockUntil` and `WaitUntil`
take a time point; all four hand the OS a `timespec`.  The conversion multiplies by the ratio of the periods
in 64-bit integers, so it wraps on large counts, and its last division truncates, so it rounds down what is
not a whole number of nanoseconds.

* `Request` — what a timed operation was asked to wait for, with the exact time it names.
* `requested_le_deadline_iff` — when the deadline handed over is not before that time.
* `noWrap_iff` — when no step of the conversion wraps.
* `Call.clocklock_recorded` — what `pthread_mutex_clocklock` is given, call by call.
* `no_early_timeout_iff` — both together, for every timed operation of the two classes.
-/

set_option autoImplicit false

namespace AxzlCore

open Errno FailureTrace Outcomes RobustMutex TwosComplement

/-- What a timed operation was asked to wait for: a duration from the reading `now` of the steady clock, or
the arrival of a time point. -/
inductive Request
  | within (now : Int) (duration : Duration)
  | upTo (timeoutTp : TimePoint)

namespace Request

/-- The time point the operation converts. -/
def timeoutTp : Request → TimePoint
  | .within now duration => (steadyNow now).add duration
  | .upTo timeoutTp => timeoutTp

/-- The time asked for, in exact seconds since the epoch of the clock. -/
def requested : Request → ℚ
  | .within now duration => (steadyNow now).sinceEpoch.value + duration.value
  | .upTo timeoutTp => timeoutTp.sinceEpoch.value

/-- The deadline handed to the OS. -/
def deadline (r : Request) : Timespec := durationToTimespec r.timeoutTp

/-- The counts are 64-bit integers. -/
def InRange : Request → Prop
  | .within now duration => Fits64 now ∧ Fits64 duration.count
  | .upTo timeoutTp => Fits64 timeoutTp.sinceEpoch.count

/-! ## The steps of the conversion -/

/-- The exact results of the signed steps of the addition: two casts to the common period, and the sum. -/
def addSteps : Request → List Int
  | .within now duration =>
      let tp := steadyNow now
      let period := tp.sinceEpoch.period.common duration.period
      castProducts period tp.sinceEpoch ++ castProducts period duration ++
        [(durationCast period tp.sinceEpoch).count + (durationCast period duration).count]
  | .upTo _ => []

/-- The exact results of all signed steps from the arguments to the `timespec`. -/
def steps (r : Request) : List Int :=
  r.addSteps ++ castProducts .nano r.timeoutTp.sinceEpoch ++
    splitSteps (durationCast .nano r.timeoutTp.sinceEpoch).count

/-- No step of the conversion wraps. -/
def NoWrap (r : Request) : Prop := ∀ x ∈ r.steps, Fits64 x

/-! ## The exact time in the unit the code computes in -/

/-- The summands of the time asked for, in ticks of the unit the code works in: the common period of the clock
and the duration, or nanoseconds divided by `ticksPerNano`. -/
def summands : Request → List Int
  | .within now duration =>
      let period := Period.nano.common duration.period
      [now * castNum .nano period, duration.count * castNum duration.period period]
  | .upTo timeoutTp => [timeoutTp.sinceEpoch.count * castNum timeoutTp.sinceEpoch.period .nano]

def ticks (r : Request) : Int := r.summands.sum

/-- How many ticks make a nanosecond. -/
def ticksPerNano (r : Request) : Nat := castDen r.timeoutTp.sinceEpoch.period .nano

/-- The summands and their sum are representable. -/
def Representable (r : Request) : Prop := (∀ x ∈ r.summands, Fits64 x) ∧ Fits64 r.ticks

/-- A time after the epoch is a whole number of nanoseconds. -/
def WholeNanos (r : Request) : Prop := r.ticks ≤ 0 ∨ (r.ticksPerNano : Int) ∣ r.ticks

/-- In the common period the sum is formed from two products; what the code computes is that sum, reduced
once. -/
theorem add_count {now : Int} {duration : Duration} (hr : (within now duration).InRange) :
    ((steadyNow now).add duration).sinceEpoch.count = wrap64 (within now duration).ticks := by
  obtain ⟨hnow, hduration⟩ := hr
  have hleft := durationCast_common_left (d := ⟨now, .nano⟩) duration.period hnow
  have hright := durationCast_common_right .nano hduration
  calc ((steadyNow now).add duration).sinceEpoch.count
      = wrap64 ((durationCast (Period.nano.common duration.period) ⟨now, .nano⟩).count +
          (durationCast (Period.nano.common duration.period) duration).count) := rfl
    _ = wrap64 (now * castNum .nano (Period.nano.common duration.period) +
          duration.count * castNum duration.period (Period.nano.common duration.period)) := by
        rw [hleft, hright, wrap64_add]
    _ = wrap64 (within now duration).ticks := by simp [ticks, summands]

/-- The time asked for, counted in ticks. -/
theorem requested_eq (r : Request) : r.requested = r.ticks / r.ticksPerNano / 1000000000 := by
  cases r with
  | within now duration =>
      have hnow := value_eq_cast ⟨now, .nano⟩ (Period.nano.common duration.period)
      have hduration := value_eq_cast duration (Period.nano.common duration.period)
      rw [castDen_common_left, Nat.cast_one, div_one] at hnow
      rw [castDen_common_right, Nat.cast_one, div_one] at hduration
      calc (within now duration).requested
          = Duration.value ⟨now, .nano⟩ + duration.value := rfl
        _ = Duration.value ⟨(within now duration).ticks, Period.nano.common duration.period⟩ := by
            rw [hnow, hduration]
            simp [Duration.value, ticks, summands]
            ring
        _ = (within now duration).ticks / (within now duration).ticksPerNano *
              (Period.nano.num / Period.nano.den) := by
            rw [value_eq_cast _ .nano, castNum_common, Nat.cast_one, mul_one]
            rfl
        _ = (within now duration).ticks / (within now duration).ticksPerNano / 1000000000 := by
            simp [Period.nano]
            ring
  | upTo timeoutTp =>
      change timeoutTp.sinceEpoch.value = _
      rw [value_eq_cast _ .nano]
      simp [ticks, summands, ticksPerNano, Request.timeoutTp, Period.nano]
      ring

/-- The nanoseconds the code arrives at: the ticks, reduced once, over the ticks of a nanosecond. -/
theorem nanos_eq {r : Request} (hr : r.InRange) :
    (durationCast .nano r.timeoutTp.sinceEpoch).count = (wrap64 r.ticks).tdiv r.ticksPerNano := by
  cases r with
  | within now duration =>
      have hcount := add_count hr
      have hfits : Fits64 ((steadyNow now).add duration).sinceEpoch.count := hcount ▸ fits_wrap64 _
      have hcast := durationCast_count .nano hfits
      have hnum : castNum ((steadyNow now).add duration).sinceEpoch.period .nano = 1 := castNum_common _ _
      rw [hnum, Int.natCast_one, Int.mul_one, wrap64_of_fits hfits, hcount] at hcast
      exact hcast
  | upTo timeoutTp =>
      simp only [ticks, summands, List.sum_singleton]
      exact durationCast_count .nano hr

/-! ## When the deadline is late enough, and when no step wraps -/

theorem fits_nanos {r : Request} (hr : r.InRange) :
    Fits64 (durationCast .nano r.timeoutTp.sinceEpoch).count := by
  rw [nanos_eq hr]
  exact fits_tdiv (fits_wrap64 _) (by exact_mod_cast castDen_pos _ _)

/-- The deadline is a whole number of nanoseconds, found from the reduced ticks. -/
theorem deadline_value {r : Request} (hr : r.InRange) :
    r.deadline.value = (wrap64 r.ticks).tdiv r.ticksPerNano / 1000000000 := by
  unfold deadline
  rw [durationToTimespec_eq, splitNanos_value (fits_nanos hr), nanos_eq hr]

/-- **Exactly when the deadline is not early.**  The ticks may not exceed the 64-bit range, and where they are
positive the nanosecond must divide them.  (Ticks below the range come back as a later time.) -/
theorem requested_le_deadline_iff {r : Request} (hr : r.InRange) :
    r.requested ≤ r.deadline.value ↔ r.ticks < 2 ^ 63 ∧ r.WholeNanos := by
  have hpos : (0 : ℚ) < r.ticksPerNano := by exact_mod_cast castDen_pos _ _
  rw [requested_eq, deadline_value hr, div_le_div_iff_of_pos_right (by norm_num), div_le_iff₀ hpos]
  have hcast : ((r.ticks : ℚ) ≤ ((wrap64 r.ticks).tdiv r.ticksPerNano : Int) * (r.ticksPerNano : ℚ)) ↔
      r.ticks ≤ r.ticksPerNano * (wrap64 r.ticks).tdiv r.ticksPerNano := by
    rw [Int.mul_comm]
    exact_mod_cast Iff.rfl
  rw [hcast]
  exact le_mul_tdiv_wrap64_iff

/-- The addition wraps nowhere exactly when the two products and their sum are representable. -/
theorem fits_addSteps_iff {now : Int} {duration : Duration} (hr : (within now duration).InRange) :
    (∀ x ∈ (within now duration).addSteps, Fits64 x) ↔ (within now duration).Representable := by
  obtain ⟨hnow, hduration⟩ := hr
  have hleft := durationCast_common_left (d := ⟨now, .nano⟩) duration.period hnow
  have hright := durationCast_common_right .nano hduration
  have hcastNow := fits_castProducts_iff (d := ⟨now, .nano⟩) (Period.nano.common duration.period) hnow
  have hcastDuration := fits_castProducts_iff (Period.nano.common duration.period) hduration
  simp only [addSteps, steadyNow, List.forall_mem_append, List.forall_mem_singleton]
  rw [hcastNow, hcastDuration, hleft, hright]
  simp only [Representable, summands, ticks, List.forall_mem_cons, List.not_mem_nil, false_implies,
    implies_true, and_true, List.sum_cons, List.sum_nil, Int.add_zero]
  refine and_congr_right fun hfits => ?_
  rw [wrap64_of_fits hfits.1, wrap64_of_fits hfits.2]

/-- **Exactly when no step wraps.**  The split into seconds and nanoseconds never does; what can overflow are
the products and the sum that count the ticks. -/
theorem noWrap_iff {r : Request} (hr : r.InRange) : r.NoWrap ↔ r.Representable := by
  have hsplit := fits_splitSteps (fits_nanos hr)
  unfold NoWrap steps
  rw [List.forall_mem_append, List.forall_mem_append, and_iff_left hsplit]
  cases r with
  | within now duration =>
      -- the cast of the sum to nanoseconds only divides
      have hnum : castNum ((steadyNow now).add duration).sinceEpoch.period .nano = 1 := castNum_common _ _
      have hcast : castProducts .nano ((steadyNow now).add duration).sinceEpoch = [] := if_pos hnum
      rw [fits_addSteps_iff hr, timeoutTp, hcast]
      exact and_iff_left (by simp)
  | upTo timeoutTp =>
      have hcast := fits_castProducts_iff .nano hr
      simp only [addSteps, Representable, summands, ticks, List.sum_singleton, List.forall_mem_singleton,
        and_self, List.not_mem_nil, false_implies, implies_true, true_and]
      exact hcast

instance (r : Request) : Decidable r.Representable := inferInstanceAs (Decidable (_ ∧ _))

instance (r : Request) : Decidable r.WholeNanos := inferInstanceAs (Decidable (_ ∨ _))

/-- With a period of a whole number of nanoseconds, as seconds have, the second condition is always met. -/
theorem wholeNanos_of_dvd {r : Request} (h : r.timeoutTp.sinceEpoch.period.den ∣ 1000000000) :
    r.WholeNanos := by
  have hden : r.ticksPerNano = 1 := by
    apply castDen_eq_one
    show r.timeoutTp.sinceEpoch.period.den * 1 ∣ r.timeoutTp.sinceEpoch.period.num * 1000000000
    rw [Nat.mul_one]
    exact Dvd.dvd.mul_left h _
  unfold WholeNanos
  rw [hden]
  exact .inr (one_dvd _)

end Request

/-! ## The operations -/

/-- What the operation was asked to wait for, if it waits with a deadline. -/
def Call.request : Call → Option Request
  | .lock | .unlock | .tryLock => none
  | .tryLockFor now duration => some (.within now duration)
  | .tryLockUntil timeoutTp => some (.upTo timeoutTp)

/-- The clock and the deadline that `TryLockUntil`, and through it `TryLockFor`, hands to
`pthread_mutex_clocklock`. -/
def Call.clocklock : Call → Option (ClockIdT × Timespec)
  | .lock | .unlock | .tryLock => none
  | .tryLockFor now duration =>
      let timeout := (steadyNow now).add duration
      some (clockId timeout, durationToTimespec timeout)
  | .tryLockUntil timeoutTp => some (clockId timeoutTp, durationToTimespec timeoutTp)

section Recording

variable {S α β : Type}

/-- Clocks and deadlines given to `pthread_mutex_clocklock`, latest first. -/
abbrev ClocklockRecord := List (ClockIdT × Timespec)

/-- An OS call that leaves the record alone. -/
def MutexOs.unrecorded (op : S → List (Rc × S)) (s : S × ClocklockRecord) :
    List (Rc × S × ClocklockRecord) :=
  (op s.1).map fun answer => (answer.1, answer.2, s.2)

/-- The OS calls of `os`, with a record of what `pthread_mutex_clocklock` is given. -/
def MutexOs.recording (os : MutexOs S) : MutexOs (S × ClocklockRecord) where
  lock := unrecorded os.lock
  clocklock clkId ts s :=
    (os.clocklock clkId ts s.1).map fun answer => (answer.1, answer.2, (clkId, ts) :: s.2)
  trylock := unrecorded os.trylock
  unlock := unrecorded os.unlock
  consistent := unrecorded os.consistent

/-- However it ends, the computation adds `given` to the record. -/
def AddsToRecord (given : ClocklockRecord) (x : Comp (Traced (S × ClocklockRecord)) SystemError α) : Prop :=
  ∀ t r t', (r, t') ∈ x t → t'.state.2 = given ++ t.state.2

theorem addsToRecord_pure (a : α) :
    AddsToRecord [] (pure a : Comp (Traced (S × ClocklockRecord)) SystemError α) := by
  intro t r t' hmem
  rw [(Comp.mem_pure.mp hmem).2]
  rfl

theorem addsToRecord_raise (e : SystemError) :
    AddsToRecord [] (Comp.raise e : Comp (Traced (S × ClocklockRecord)) SystemError α) := by
  intro t r t' hmem
  rw [(Comp.mem_raise.mp hmem).2]
  rfl

theorem addsToRecord_osCall {given : ClocklockRecord}
    {op : S × ClocklockRecord → List (Rc × S × ClocklockRecord)}
    (hop : ∀ s rc s', (rc, s') ∈ op s → s'.2 = given ++ s.2) :
    AddsToRecord given (osCall id (Comp.ofList op)) := by
  intro t r t' hmem
  obtain ⟨rc, hanswer, -⟩ := Comp.mem_ofList.mp (mem_record.mp hmem).1
  exact hop t.state rc t'.state hanswer

theorem addsToRecord_unrecorded (op : S → List (Rc × S)) :
    AddsToRecord [] (osCall id (Comp.ofList (MutexOs.unrecorded op))) := by
  refine addsToRecord_osCall fun s rc s' hanswer => ?_
  obtain ⟨answer, -, heq⟩ := List.mem_map.mp hanswer
  cases heq
  rfl

/-- What follows the OS call adds nothing. -/
theorem AddsToRecord.bind {given : ClocklockRecord} {x : Comp (Traced (S × ClocklockRecord)) SystemError α}
    {f : α → Comp (Traced (S × ClocklockRecord)) SystemError β} (hx : AddsToRecord given x)
    (hf : ∀ a, AddsToRecord [] (f a)) : AddsToRecord given (x >>= f) := by
  intro t r t' hmem
  rcases Comp.mem_bind.mp hmem with ⟨a, t₁, hfirst, hnext⟩ | ⟨e, hfirst, -⟩
  · rw [hf a t₁ r t' hnext, List.nil_append, hx t _ t₁ hfirst]
  · exact hx t _ t' hfirst

theorem AddsToRecord.ite {p : Prop} [Decidable p] {given : ClocklockRecord}
    {x y : Comp (Traced (S × ClocklockRecord)) SystemError α} (hx : AddsToRecord given x)
    (hy : AddsToRecord given y) : AddsToRecord given (if p then x else y) := by
  split
  · exact hx
  · exact hy

variable (os : MutexOs S) (m : Mutex)

theorem addsToRecord_lockFail (rc : Rc) : AddsToRecord [] (m.lockFailTraced os.recording rc) :=
  .ite (.bind (addsToRecord_unrecorded os.consistent) fun _ =>
    .ite (addsToRecord_pure ()) (addsToRecord_raise _)) (addsToRecord_raise _)

theorem addsToRecord_tryLockUntil (timeoutTp : TimePoint) :
    AddsToRecord [(clockId timeoutTp, durationToTimespec timeoutTp)]
      (m.tryLockUntilTraced os.recording timeoutTp) := by
  refine .bind (addsToRecord_osCall fun s rc s' hanswer => ?_) fun rc =>
    .ite (addsToRecord_pure true)
      (.ite (.bind (addsToRecord_lockFail os m rc) fun _ => addsToRecord_pure false)
        (addsToRecord_pure false))
  obtain ⟨answer, -, heq⟩ := List.mem_map.mp hanswer
  cases heq
  rfl

/-- **What the OS is given.**  Whatever the OS answers, a call hands `pthread_mutex_clocklock` the clock and
the deadline of `clocklock`, once; an operation that has none makes no such call. -/
theorem Call.clocklock_recorded (c : Call) :
    AddsToRecord c.clocklock.toList (c.performTraced os.recording m) := by
  cases c with
  | lock =>
      exact .bind (.bind (addsToRecord_unrecorded os.lock) fun rc =>
        .ite (addsToRecord_lockFail os m rc) (addsToRecord_pure ())) fun _ => addsToRecord_pure _
  | unlock =>
      exact .bind (.bind (addsToRecord_unrecorded os.unlock) fun _ =>
        .ite (addsToRecord_raise _) (addsToRecord_pure ())) fun _ => addsToRecord_pure _
  | tryLock =>
      exact .bind (.bind (addsToRecord_unrecorded os.trylock) fun _ => addsToRecord_pure _) fun _ =>
        addsToRecord_pure _
  | tryLockFor now duration =>
      exact .bind (addsToRecord_tryLockUntil os m _) fun _ => addsToRecord_pure _
  | tryLockUntil timeoutTp =>
      exact .bind (addsToRecord_tryLockUntil os m timeoutTp) fun _ => addsToRecord_pure _

end Recording

def WaitCall.request : WaitCall → Option Request
  | .wait | .waitPred => none
  | .waitUntil timeoutTp | .waitUntilPred timeoutTp => some (.upTo timeoutTp)
  | .waitFor now duration | .waitForPred now duration => some (.within now duration)

/-- The deadline of an OS wait. -/
def OsWait.deadline : OsWait → Option Timespec
  | .condWait => none
  | .condClockwait _ ts => some ts

/-- An operation of either class. -/
inductive TimedOp
  | onMutex (c : Call)
  | onCondition (c : WaitCall)

namespace TimedOp

def request : TimedOp → Option Request
  | .onMutex c => c.request
  | .onCondition c => c.request

/-- The deadline in its call to the OS. -/
def osDeadline : TimedOp → Option Timespec
  | .onMutex c => c.clocklock.map Prod.snd
  | .onCondition c => c.osWait.deadline

/-- The operation cannot time out before the time `r` it was asked for. -/
structure NoEarlyTimeout (op : TimedOp) (r : Request) : Prop where
  /-- The deadline it hands over is not before that time. -/
  notEarly : ∃ ts, op.osDeadline = some ts ∧ r.requested ≤ ts.value
  noWrap : r.NoWrap

/-- Whatever the operation, its deadline is that of the request. -/
theorem osDeadline_of_request {op : TimedOp} {r : Request} (hop : op.request = some r) :
    op.osDeadline = some r.deadline := by
  cases op with
  | onMutex c =>
      cases c with
      | lock | unlock | tryLock => cases hop
      | tryLockFor now duration =>
          cases hop
          rfl
      | tryLockUntil timeoutTp =>
          cases hop
          rfl
  | onCondition c =>
      cases c with
      | wait | waitPred => cases hop
      | waitUntil timeoutTp | waitUntilPred timeoutTp =>
          cases hop
          rfl
      | waitFor now duration | waitForPred now duration =>
          cases hop
          rfl

end TimedOp

/-- **Exactly when a timed operation cannot time out early.**  For every operation with a deadline, every clock
reading, every 64-bit count and every period: the products and the sum of the conversion must be
representable, and a time after the epoch must be a whole number of nanoseconds. -/
theorem no_early_timeout_iff {op : TimedOp} {r : Request} (hop : op.request = some r) (hr : r.InRange) :
    op.NoEarlyTimeout r ↔ r.Representable ∧ r.WholeNanos := by
  constructor
  · rintro ⟨⟨ts, hts, hle⟩, hwrap⟩
    rw [TimedOp.osDeadline_of_request hop] at hts
    cases hts
    exact ⟨(Request.noWrap_iff hr).mp hwrap, ((Request.requested_le_deadline_iff hr).mp hle).2⟩
  · rintro ⟨hrepresentable, hwhole⟩
    refine ⟨⟨_, TimedOp.osDeadline_of_request hop, ?_⟩, (Request.noWrap_iff hr).mpr hrepresentable⟩
    have hlt : r.ticks < 2 ^ 63 := by exact_mod_cast hrepresentable.2.2
    exact (Request.requested_le_deadline_iff hr).mpr ⟨hlt, hwhole⟩

/-- Five seconds from a clock that reads seven nanoseconds. -/
theorem no_early_timeout_seconds :
    (TimedOp.onMutex (.tryLockFor 7 ⟨5, .second⟩)).NoEarlyTimeout (.within 7 ⟨5, .second⟩) := by
  have hr : (Request.within 7 ⟨5, .second⟩).InRange := ⟨by decide, by decide⟩
  exact (no_early_timeout_iff rfl hr).mpr ⟨by decide, Request.wholeNanos_of_dvd (by decide)⟩

/-- `hours::max()`, from a clock that reads zero: the deadline is one hour before the epoch. -/
theorem hours_max_times_out_early :
    (TimedOp.onMutex (.tryLockFor 0 ⟨2 ^ 63 - 1, .hour⟩)).osDeadline = some ⟨-3600, 0⟩ ∧
      ¬ (TimedOp.onMutex (.tryLockFor 0 ⟨2 ^ 63 - 1, .hour⟩)).NoEarlyTimeout
        (.within 0 ⟨2 ^ 63 - 1, .hour⟩) := by
  have hdeadline : (TimedOp.onMutex (.tryLockFor 0 ⟨2 ^ 63 - 1, .hour⟩)).osDeadline =
      some ⟨-3600, 0⟩ := by
    decide +kernel
  refine ⟨hdeadline, fun hno => ?_⟩
  obtain ⟨ts, hts, hle⟩ := hno.notEarly
  rw [hdeadline] at hts
  cases hts
  norm_num [Request.requested, Duration.value, Timespec.value, steadyNow, Period.nano, Period.hour] at hle

end AxzlCore

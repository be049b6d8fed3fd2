import AxzlCore.Clock.ClockUtility
import AxzlCore.ConditionVariable.Construction

/-!
# `Wait`, `WaitFor` and `WaitUntil`

Each wait operation is a loop around one OS wait, cut here at the places where the caller holds the mutex
and where it does not:

* `WaitCall.loopHead` — from the entry of the operation, or from the head of its loop, to the OS wait or to
  the end of the operation; the caller holds the mutex and may evaluate its predicate.
* `WaitCall.resume` — from the return of the OS wait to the head of the loop or to the end, by the return
  code.

`WaitFor` is `WaitUntil` at the deadline it computes (`WaitCall.untilForm`).
-/

set_option autoImplicit false

namespace AxzlCore

open Errno

/-- `ConditionVariable::CvStatus`. -/
inductive CvStatus
  | timeout
  | noTimeout
  deriving DecidableEq, Repr

/-- The wait operations, with their arguments; `now` is the reading of the steady clock. -/
inductive WaitCall
  | wait
  | waitPred
  | waitUntil (timeoutTp : TimePoint)
  | waitUntilPred (timeoutTp : TimePoint)
  | waitFor (now : Int) (duration : Duration)
  | waitForPred (now : Int) (duration : Duration)

/-- What a wait operation returns. -/
inductive WaitReply
  | void
  | status (s : CvStatus)
  | bool (b : Bool)
  deriving DecidableEq, Repr

/-- What a wait operation does next: it ends, normally or by an exception, or goes on. -/
inductive Progress
  | ends (r : Except SystemError WaitReply)
  | goesOn

/-- The OS call a wait operation blocks in. -/
inductive OsWait
  | condWait
  | condClockwait (clkId : ClockIdT) (ts : Timespec)
  deriving DecidableEq, Repr

namespace OsWait

/-- What the call may return when nothing went wrong with the mutex. -/
def returns : OsWait → List Rc
  | .condWait => [0]
  | .condClockwait _ _ => [0, ETIMEDOUT]

end OsWait

namespace ConditionVariable

/-- `Wait(lock)`, after `pthread_cond_wait` returned `rc`.  (The source passes `&mCv`, a pointer to the
pointer, which the OS call does not accept; modelled is the call on the condition variable.) -/
def wait (cv : ConditionVariable) (rc : Rc) : Except SystemError Unit :=
  if rc ≠ 0 then .error (throwSystemError cv.mName "Wait" rc "pthread_cond_wait") else .ok ()

/-- `WaitUntil(lock, timeoutTp)`, after `pthread_cond_clockwait` returned `rc`. -/
def waitUntil (cv : ConditionVariable) (rc : Rc) : Except SystemError CvStatus :=
  if rc = 0 then
    .ok .noTimeout
  else if rc = ETIMEDOUT then
    .ok .timeout
  else
    .error (throwSystemError cv.mName "WaitUntil" rc "WaitUntil pthread_cond_clockwait")

/-- The loop body of `WaitUntil(lock, timeoutTp, pred)`, after `pthread_cond_clockwait` returned `rc`;
`predReturn` is the value `pred` had at the head of the loop. -/
def waitUntilPred (cv : ConditionVariable) (predReturn : Bool) (rc : Rc) : Progress :=
  if rc = 0 then
    .goesOn
  else if rc = ETIMEDOUT then
    -- the predicate is not asked again
    .ends (.ok (.bool predReturn))
  else
    .ends (.error (throwSystemError cv.mName "WaitUntil" rc "WaitUntil pthread_cond_clockwait"))

end ConditionVariable

namespace WaitCall

/-- `WaitFor` converts to `WaitUntil`. -/
def untilForm : WaitCall → WaitCall
  | .waitFor now duration => .waitUntil ((steadyNow now).add duration)
  | .waitForPred now duration => .waitUntilPred ((steadyNow now).add duration)
  | c => c

/-- The OS call the operation blocks in.  (`Wait` writes `&mCv` where `mCv` is the pointer to the object, so no
program can instantiate it; it is taken for the wait on `mCv` that the timed forms make.) -/
def osWait (c : WaitCall) : OsWait :=
  match c.untilForm with
  | .waitUntil timeoutTp | .waitUntilPred timeoutTp =>
      .condClockwait (clockId timeoutTp) (durationToTimespec timeoutTp)
  | _ => .condWait

/-- From the entry, or the head of the loop, onwards; `pred` is the value of the predicate there.  The
operations without a predicate wait at once. -/
def loopHead (c : WaitCall) (pred : Bool) : Progress :=
  match c.untilForm with
  | .waitPred => if pred then .ends (.ok .void) else .goesOn
  | .waitUntilPred _ => if pred then .ends (.ok (.bool true)) else .goesOn
  | _ => .goesOn

/-- From the return of the OS wait onwards.  A predicate loop got there because its predicate was false. -/
def resume (c : WaitCall) (cv : ConditionVariable) (rc : Rc) : Progress :=
  match c.untilForm with
  | .waitPred =>
      match cv.wait rc with
      | .ok () => .goesOn
      | .error e => .ends (.error e)
  | .waitUntilPred _ => cv.waitUntilPred false rc
  | .waitUntil _ => .ends ((cv.waitUntil rc).map WaitReply.status)
  | _ => .ends ((cv.wait rc).map fun _ => WaitReply.void)

/-- Every form of wait ends with an exception when the OS reports a dead owner: none tries to make the
mutex consistent. -/
theorem resume_ownerDead (c : WaitCall) (cv : ConditionVariable) :
    ∃ e, c.resume cv EOWNERDEAD = .ends (.error e) ∧ e.code = EOWNERDEAD := by
  unfold resume
  cases c with
  | wait => exact ⟨_, rfl, rfl⟩
  | waitPred => exact ⟨_, rfl, rfl⟩
  | waitUntil timeoutTp => exact ⟨_, rfl, rfl⟩
  | waitUntilPred timeoutTp => exact ⟨_, rfl, rfl⟩
  | waitFor now duration => exact ⟨_, rfl, rfl⟩
  | waitForPred now duration => exact ⟨_, rfl, rfl⟩

end WaitCall

end AxzlCore

import AxzlCore.Mutex.Handles
import AxzlCore.Mutex.TracedOperations
import AxzlCore.Thread.TracedOperations
import AxzlCore.Thread.Priority

/-!
# Whose error number an exception has

The operations of `Mutex` and `Thread` that make OS calls after construction or at thread start, taken
together.  An exception is to have the error number of the call that failed last: the return value of a
`pthread_*` call, `errno` after a call that returns -1.

* `reported_number_iff` — exactly when an operation does so.  `setpriority` is reported as -1, and a
  recovery that fails as the acquisition before it.  With the record of the calls that failed forgotten, the
  operations are those of the model.
-/

set_option autoImplicit false

namespace AxzlCore

open Errno FailureTrace Outcomes RobustMutex

/-- An operation on a mutex or on a thread object, with what its OS calls answer and the state it starts
in. -/
inductive Operation (S O : Type)
  | mutexCall (os : MutexOs S) (m : Mutex) (c : Call) (s : S)
  | threadCall (c : ThreadCall) (s : ThreadState O)

namespace Operation

variable {S O : Type}

/-- Every exception of the operation has the error number of the OS call that failed last. -/
def ReportsFailingCall : Operation S O → Prop
  | .mutexCall os m c s => ReportsLast SystemError.code (c.performTraced os m) ⟨s, []⟩
  | .threadCall c s => ReportsLast SystemError.code c.performTraced ⟨s, []⟩

/-- The numbers left in `errno` are positive. -/
def NumbersPositive : Operation S O → Prop
  | .mutexCall _ _ _ _ => True
  | .threadCall c _ => c.NumbersPositive

/-- `setpriority` does not fail where it is called, and no recovery fails with a number of its own. -/
def NumberKept : Operation S O → Prop
  | .mutexCall os m c s => c.RecoveryReported os m s
  | .threadCall c s => c.SetpriorityDone s

end Operation

/-- **Exactly when an operation reports the call that failed last**: for every answer of every OS call and
every state, when no `setpriority` fails and no failed recovery hides behind the number of the acquisition
it was to repair.  And the operations that record their failing calls are the operations of the model: those of
`Mutex` over the calls of POSIX, and those of `Thread`. -/
theorem reported_number_iff {S O : Type} {op : Operation S O} (hop : op.NumbersPositive) :
    (op.ReportsFailingCall ↔ op.NumberKept) ∧
      (∀ (T : Type) [DecidableEq T] (attr : Attr) (m : Mutex) (t : T) (rcConsistent : Rc) (c : Call),
        Erases (c.performTraced (.posix attr t rcConsistent) m) (c.perform attr m t rcConsistent)) ∧
      ∀ c : ThreadCall, Erases (c.performTraced : TracedM O Unit) (Comp.ofEState c.perform) := by
  refine ⟨?_, fun T _ attr m t rcConsistent c => c.erases_performTraced attr m t rcConsistent,
    ThreadCall.erases_performTraced⟩
  cases op with
  | mutexCall os m c s => exact Call.reportsLast_iff os m c s
  | threadCall c s => exact ThreadCall.reportsLast_iff hop s

/-! ## Three failures -/

/-- The worker of `workerState`, running under a real-time policy. -/
def rtWorkerState : ThreadState Unit :=
  { workerState with threads := changed workerState.threads 1 fun th =>
      { th with tuning := { th.tuning with policy := .realtimeRoundRobin, priority := 10 } } }

/-- A `pthread_setschedprio` that fails is reported under its number, and so is a `Lock` on an error-checking
mutex its caller holds: that one is not abandoned. -/
theorem reported_number_setschedprio :
    (Operation.threadCall (.updatePriority ⟨0, EPERM, .done⟩ 0 5) rtWorkerState :
        Operation Unit Unit).ReportsFailingCall ∧
      (Operation.mutexCall (.posix ⟨.errorcheck, true⟩ 1 EINVAL) (shmHandle .created) .lock (.held 1 0 true) :
        Operation (State Nat) Unit).ReportsFailingCall := by
  constructor
  · refine (reported_number_iff ?_).1.mpr ?_
    · intro errno hfailed
      cases hfailed
    · exact fun _ _ _ _ => rfl
  · refine (reported_number_iff ?_).1.mpr ?_
    · trivial
    · refine (Call.recoveryReported_posix_iff .lock).mpr ?_
      intro _ habandoned
      cases habandoned

/-- The number `setpriority` leaves in `errno` is not reported, nor is that of a recovery that fails: the
caller of `UpdatePriority` sees -1, the one who locked an abandoned mutex `EOWNERDEAD`. -/
theorem failing_call_not_reported :
    ¬ (Operation.threadCall (.updatePriority ⟨0, 0, .failed EPERM⟩ 0 (-5)) workerState :
        Operation Unit Unit).ReportsFailingCall ∧
      ¬ (Operation.mutexCall (.posix Mutex.shmBehaviour 1 EINVAL) (shmHandle .created) .lock .abandoned :
        Operation (State Nat) Unit).ReportsFailingCall := by
  constructor
  · intro hreports
    have hmem : (.error (throwSystemError "worker" "UpdatePriority" (-1) "setpriority"),
        ⟨_, [EPERM]⟩) ∈ (ThreadCall.updatePriority ⟨0, 0, .failed EPERM⟩ 0 (-5)).performTraced
          ⟨workerState, []⟩ := List.mem_singleton.mpr rfl
    exact absurd (hreports _ _ hmem) (by decide)
  · intro hreports
    have hmem : (.error (throwSystemError "shm" "LockFail" EOWNERDEAD "pthread_mutex_consistent failure"),
        ⟨_, [EINVAL, EOWNERDEAD]⟩) ∈ Call.lock.performTraced (.posix Mutex.shmBehaviour 1 EINVAL)
          (shmHandle .created) ⟨(.abandoned : State Nat), []⟩ := List.mem_singleton.mpr rfl
    exact absurd (hreports _ _ hmem) (by decide)

end AxzlCore

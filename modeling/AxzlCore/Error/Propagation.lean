import AxzlCore.ConditionVariable.Waits
import AxzlCore.Error.Throw
import AxzlCore.Handle.Atomicity
import AxzlCore.Mutex.SharedMutex
import AxzlCore.Thread.Operations

/-!
# What a caller of the library catches

Constructors, locking operations, waits and thread operations all report failures the same way:
`ThrowSystemError` builds a `std::system_error` and `Throw` decides what becomes of it.

* `Raised` — the exceptions handed to `Throw`, by the operation they come from; `Raised.isThrown` says that
  each of them was built by `ThrowSystemError` from the code of a failure.
* `exception_identity_lost` — under a throwing policy none of them reaches the caller, nor would any other
  `std::system_error`.
-/

set_option autoImplicit false

namespace AxzlCore

open Errno Outcomes Outcomes.Comp RobustMutex

/-- The exception an operation of `Mutex`, `ConditionVariable` or `Thread` hands to `Throw`. -/
inductive Raised : SystemError → Prop
  | construction {c : Construction} {l l' : Ledger} {e : SystemError} (h : c.run l = .error e l') :
      Raised e
  | mutexCall {T : Type} [DecidableEq T] {attr : Attr} {m : Mutex} {t : T} {rcConsistent : Rc}
      {c : Call} {s s' : State T} {e : SystemError}
      (h : (.error e, s') ∈ c.perform attr m t rcConsistent s) : Raised e
  | wait {c : WaitCall} {cv : ConditionVariable} {rc : Rc} {e : SystemError}
      (h : c.resume cv rc = .ends (.error e)) : Raised e
  | threadConstruct {os : Thread.AttrResults} {rcCreate : Rc} {name : String} {log : LogPtr}
      {cfg : Thread.Config} {self dflt : PthreadAttr} {tid : Tid} {e : SystemError}
      (h : Thread.construct os rcCreate name log cfg self dflt tid = .error e) : Raised e
  | threadEntry {O : Type} {nice : Syscall} {self : Tid} {s s' : ThreadState O} {e : SystemError}
      (h : Thread.postThreadEntryInit nice self s = .error e s') : Raised e
  | updatePriority {O : Type} {os : PriorityResults} {caller : Tid} {prio : Int}
      {s s' : ThreadState O} {e : SystemError}
      (h : Thread.updatePriority os caller prio s = .error e s') : Raised e
  | detach {O : Type} {rc : Rc} {s s' : ThreadState O} {e : SystemError}
      (h : Thread.detach rc s = .error e s') : Raised e

/-! ## Where the exceptions come from -/

namespace Mutex

variable {T : Type} {m : Mutex} {rcConsistent rc : Rc}

theorem raisesOnly_lockFail (hrc : rc ≠ 0) :
    RaisesOnly SystemError.IsThrown
      (lockFail m rcConsistent rc : Comp (State T) SystemError Unit) := by
  unfold lockFail
  split
  · refine .bind (raisesOnly_ofList _) fun rc' => ?_
    split
    · exact raisesOnly_pure _
    · exact raisesOnly_raise (isThrown_of_ne hrc _ _ _)
  · exact raisesOnly_raise (isThrown_of_ne hrc _ _ _)

variable [DecidableEq T] {attr : Attr} {t : T}

theorem raisesOnly_lock : RaisesOnly SystemError.IsThrown (lock attr m t rcConsistent) := by
  refine .bind (raisesOnly_ofList _) fun rc => ?_
  split
  · next hrc => exact raisesOnly_lockFail hrc
  · exact raisesOnly_pure _

theorem raisesOnly_unlock : RaisesOnly SystemError.IsThrown (unlock attr m t) := by
  refine .bind (raisesOnly_ofList _) fun rc => ?_
  split
  · next hrc => exact raisesOnly_raise (isThrown_of_ne hrc _ _ _)
  · exact raisesOnly_pure _

theorem raisesOnly_tryLock : RaisesOnly SystemError.IsThrown (tryLock attr t) :=
  .bind (raisesOnly_ofList _) fun _ => raisesOnly_pure _

theorem raisesOnly_tryLockUntil (timeoutTp : TimePoint) :
    RaisesOnly SystemError.IsThrown (tryLockUntil attr m t rcConsistent timeoutTp) := by
  refine .bind (raisesOnly_ofList _) fun rc => ?_
  split
  · exact raisesOnly_pure _
  · next hrc =>
      split
      · exact .bind (raisesOnly_lockFail hrc) fun _ => raisesOnly_pure _
      · exact raisesOnly_pure _

end Mutex

theorem raisesOnly_perform {T : Type} [DecidableEq T] (attr : Attr) (m : Mutex) (t : T)
    (rcConsistent : Rc) (c : Call) :
    RaisesOnly SystemError.IsThrown (c.perform attr m t rcConsistent) := by
  cases c with
  | lock => exact .bind Mutex.raisesOnly_lock fun _ => raisesOnly_pure _
  | unlock => exact .bind Mutex.raisesOnly_unlock fun _ => raisesOnly_pure _
  | tryLock => exact .bind Mutex.raisesOnly_tryLock fun _ => raisesOnly_pure _
  | tryLockFor now duration =>
      exact .bind (Mutex.raisesOnly_tryLockUntil _) fun _ => raisesOnly_pure _
  | tryLockUntil timeoutTp =>
      exact .bind (Mutex.raisesOnly_tryLockUntil timeoutTp) fun _ => raisesOnly_pure _

namespace Thread

/-- Every exception of the code comes from a failure. -/
def ThrowsOnly {α : Type} (x : Except SystemError α) : Prop := ∀ e, x = .error e → e.IsThrown

theorem throwsOnly_ok {α : Type} (a : α) : ThrowsOnly (.ok a) := by
  intro e h
  cases h

theorem throwsOnly_error {α : Type} {e : SystemError} (he : e.IsThrown) :
    ThrowsOnly (.error e : Except SystemError α) := by
  intro e' h
  cases h
  exact he

theorem throwsOnly_throwOn (rc : Rc) (name loc what : String) :
    ThrowsOnly (throwOn rc name loc what) := by
  unfold throwOn
  split
  · next hrc => exact throwsOnly_error (isThrown_of_ne hrc _ _ _)
  · exact throwsOnly_ok ()

theorem ThrowsOnly.bind {α β : Type} {x : Except SystemError α} {f : α → Except SystemError β}
    (hx : ThrowsOnly x) (hf : ∀ a, ThrowsOnly (f a)) : ThrowsOnly (x >>= f) := by
  cases x with
  | ok a => exact hf a
  | error e => exact throwsOnly_error (hx e rfl)

section Blocks

variable {os : AttrResults} {name : String}

theorem throwsOnly_checkSched (sched : SchedulerParams) : ThrowsOnly (checkSched name sched) := by
  unfold checkSched
  split
  · split
    · exact throwsOnly_error (isThrown_of_ne (by decide) _ _ _)
    · exact throwsOnly_ok ()
  · split
    · exact throwsOnly_error (isThrown_of_ne (by decide) _ _ _)
    · exact throwsOnly_ok ()

theorem throwsOnly_applySched (mSched : Option SchedulerParams) (attr : PthreadAttr) :
    ThrowsOnly (applySched os name mSched attr) := by
  unfold applySched
  split
  · exact throwsOnly_ok attr
  · next sched =>
      refine .bind (throwsOnly_checkSched sched) fun _ => .bind (throwsOnly_throwOn _ _ _ _) fun _ =>
        .bind (throwsOnly_throwOn _ _ _ _) fun _ => ?_
      split
      · exact .bind (throwsOnly_throwOn _ _ _ _) fun _ => throwsOnly_ok _
      · exact throwsOnly_ok _

theorem throwsOnly_applyOption {α : Type} (rc : Rc) (what : String)
    (set : α → PthreadAttr → PthreadAttr) (field : Option α) (attr : PthreadAttr) :
    ThrowsOnly (applyOption rc name what set field attr) := by
  unfold applyOption
  split
  · exact throwsOnly_ok attr
  · exact .bind (throwsOnly_throwOn _ _ _ _) fun _ => throwsOnly_ok _

theorem throwsOnly_applyStackSize (mStackSize : Option Nat) (attr : PthreadAttr) :
    ThrowsOnly (applyStackSize os name mStackSize attr) := by
  unfold applyStackSize
  split
  · exact throwsOnly_ok attr
  · split
    · exact throwsOnly_error (isThrown_of_ne (by decide) _ _ _)
    · exact .bind (throwsOnly_throwOn _ _ _ _) fun _ => throwsOnly_ok _

theorem throwsOnly_baseAttr (self dflt : PthreadAttr) (mInherit : Bool) :
    ThrowsOnly (baseAttr os name self dflt mInherit) := by
  unfold baseAttr
  split
  · exact .bind (throwsOnly_throwOn _ _ _ _) fun _ => throwsOnly_ok self
  · exact .bind (throwsOnly_throwOn _ _ _ _) fun _ => throwsOnly_ok dflt

theorem throwsOnly_attributes (self dflt : PthreadAttr) (cfg : Config) :
    ThrowsOnly (attributes os name self dflt cfg) :=
  .bind (throwsOnly_throwOn _ _ _ _) fun _ => .bind (throwsOnly_baseAttr _ _ _) fun _ =>
    .bind (throwsOnly_applySched _ _) fun _ => .bind (throwsOnly_applyOption _ _ _ _ _) fun _ =>
      .bind (throwsOnly_applyStackSize _ _) fun _ => .bind (throwsOnly_applyOption _ _ _ _ _) fun _ =>
        throwsOnly_applyOption _ _ _ _ _

end Blocks

theorem throwsOnly_construct (os : AttrResults) (rcCreate : Rc) (name : String) (log : LogPtr)
    (cfg : Config) (self dflt : PthreadAttr) (tid : Tid) :
    ThrowsOnly (construct os rcCreate name log cfg self dflt tid) :=
  .bind (throwsOnly_attributes _ _ _) fun _ => .bind (throwsOnly_throwOn _ _ _ _) fun _ =>
    throwsOnly_ok _

end Thread

/-! ## Waits -/

namespace ConditionVariable

variable {cv : ConditionVariable} {rc : Rc} {e : SystemError}

theorem wait_isThrown (h : cv.wait rc = .error e) : e.IsThrown := by
  unfold wait at h
  split at h
  · next hrc =>
      cases h
      exact isThrown_of_ne hrc _ _ _
  · cases h

theorem waitUntil_isThrown (h : cv.waitUntil rc = .error e) : e.IsThrown := by
  unfold waitUntil at h
  split at h
  · cases h
  · next hrc =>
      split at h
      · cases h
      · cases h
        exact isThrown_of_ne hrc _ _ _

theorem waitUntilPred_isThrown {predReturn : Bool}
    (h : cv.waitUntilPred predReturn rc = .ends (.error e)) : e.IsThrown := by
  unfold waitUntilPred at h
  split at h
  · cases h
  · next hrc =>
      split at h
      · cases h
      · cases h
        exact isThrown_of_ne hrc _ _ _

end ConditionVariable

/-- A wait throws on a code that is neither success nor a timeout. -/
theorem isThrown_of_resume {c : WaitCall} {cv : ConditionVariable} {rc : Rc} {e : SystemError}
    (h : c.resume cv rc = .ends (.error e)) : e.IsThrown := by
  unfold WaitCall.resume at h
  split at h
  · cases hwait : cv.wait rc with
    | ok u =>
        rw [hwait] at h
        cases h
    | error e' =>
        rw [hwait] at h
        cases h
        exact ConditionVariable.wait_isThrown hwait
  · exact ConditionVariable.waitUntilPred_isThrown h
  · cases hwait : cv.waitUntil rc with
    | ok status =>
        rw [hwait] at h
        cases h
    | error e' =>
        rw [hwait] at h
        cases h
        exact ConditionVariable.waitUntil_isThrown hwait
  · cases hwait : cv.wait rc with
    | ok u =>
        rw [hwait] at h
        cases h
    | error e' =>
        rw [hwait] at h
        cases h
        exact ConditionVariable.wait_isThrown hwait

/-! ## What leaves the library -/

/-- Every exception handed to `Throw` was built by `ThrowSystemError`, from the code of a failure. -/
theorem Raised.isThrown {e : SystemError} (h : Raised e) : e.IsThrown := by
  cases h with
  | @construction c l l' _ h =>
      rcases c.run_cases l with ⟨-, made, l₁, hrun, -⟩ | ⟨-, e', hthrown, hrun⟩
      · rw [hrun] at h
        cases h
      · rw [hrun] at h
        cases h
        exact hthrown
  | mutexCall h => exact raisesOnly_perform _ _ _ _ _ _ _ _ h
  | wait h => exact isThrown_of_resume h
  | threadConstruct h => exact Thread.throwsOnly_construct _ _ _ _ _ _ _ _ _ h
  | threadEntry h =>
      obtain ⟨hdone, rfl⟩ := Thread.postThreadEntryInit_error h
      exact isThrown_of_ne (fun hvalue => hdone (Syscall.value_eq_zero.mp hvalue)) _ _ _
  | @updatePriority O os caller prio s s' _ h =>
      rcases Thread.updatePriority_cases os caller prio s with
        ⟨th, s₁, -, -, hout, -⟩ | ⟨-, e', s₁, hout, hthrown, -⟩
      · rw [hout] at h
        cases h
      · rw [hout] at h
        cases h
        exact hthrown
  | @detach O rc s s' _ h =>
      rw [Thread.detach_eq] at h
      split at h
      · split at h
        · next hrc =>
            cases h
            exact isThrown_of_ne hrc _ _ _
        · cases h
      · cases h

/-- The exception that leaves `Throw` is the one that was passed in: of the same dynamic type, with the same
code and the same text. -/
structure KeepsIdentity (strerror : Rc → String) (e : SystemError) (out : Departure) : Prop where
  thrown : ∃ exc, out = .throws exc ∧ exc.dynamicType = .systemError ∧ exc.code? = some e.code ∧
    exc.what strerror = (Exc.systemError e).what strerror

/-- **No exception keeps its identity.**  What any operation raises was built by `ThrowSystemError` from the
code of a failure; and whatever `std::system_error` is handed to `Throw`, with whatever code, name and text,
under either throwing policy and with any log, it is not what leaves. -/
theorem exception_identity_lost {policy : UnrecoverableErrorPolicy} (hpolicy : policy.Throws)
    (handler : Bool) (strerror : Rc → String) (log : Option Log) (e : SystemError) :
    (Raised e → ∃ name loc rc what, rc ≠ 0 ∧ e = throwSystemError name loc rc what) ∧
      ¬ KeepsIdentity strerror e (axzlThrow policy handler strerror log (.systemError e)).1 := by
  refine ⟨fun hraised => hraised.isThrown, fun hkeeps => ?_⟩
  obtain ⟨exc, hout, htype, -, -⟩ := hkeeps.thrown
  rw [axzlThrow_of_throws hpolicy] at hout
  split at hout
  · cases hout
    cases htype
  · cases hout

/-- The exception of an `Unlock` by a thread that does not own the mutex. -/
def unlockError : SystemError := throwSystemError "queue" "UnlockFail" EPERM "pthread_mutex_unlock"

/-- It comes from an `Unlock` of a free error-checking mutex. -/
theorem raised_unlockError : Raised unlockError := by
  have hcall : ((.error unlockError, .free) : Except SystemError Reply × State Nat) ∈
      Call.unlock.perform ⟨.errorcheck, false⟩ (Mutex.named "queue" none (.heap 0)) 0 0 .free := by
    decide
  exact .mutexCall hcall

theorem unlock_error_identity_lost :
    (∃ name loc rc what, rc ≠ 0 ∧ unlockError = throwSystemError name loc rc what) ∧
      ¬ KeepsIdentity (fun _ => "Operation not permitted") unlockError
        (axzlThrow .logAndThrowException false (fun _ => "Operation not permitted") (some {})
          (.systemError unlockError)).1 := by
  have hpolicy : UnrecoverableErrorPolicy.logAndThrowException.Throws := trivial
  obtain ⟨hbuilt, hlost⟩ := exception_identity_lost hpolicy false (fun _ => "Operation not permitted")
    (some {}) unlockError
  exact ⟨hbuilt raised_unlockError, hlost⟩

/-- The caller of that `Unlock` catches a plain `std::exception`, without a code and with another text. -/
theorem unlock_throws_plain_exception :
    Raised unlockError ∧
      axzlThrow .throwException false (fun _ => "Operation not permitted") (some {})
        (.systemError unlockError) = (.throws .exception, some {
          sink := [.pushEntry ⟨"[Critical]-",
            "Exception! queue@UnlockFail: pthread_mutex_unlock: Operation not permitted"⟩] }) ∧
      ¬ KeepsIdentity (fun _ => "Operation not permitted") unlockError (.throws .exception) := by
  refine ⟨raised_unlockError, by decide, fun hkeeps => ?_⟩
  obtain ⟨exc, hout, htype, -, -⟩ := hkeeps.thrown
  cases hout
  cases htype

end AxzlCore

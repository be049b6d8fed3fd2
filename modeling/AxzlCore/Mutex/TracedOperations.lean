import AxzlCore.Library.FailureTrace
import AxzlCore.Mutex.SharedMutex

/-!
# The locking operations, with the calls that failed

The operations of `Mutex.Operations` once more, statement by statement, over OS calls that may answer
anything (`MutexOs`), each of them written as one (`osCall`): next to the mutex the operations record the
error numbers of the calls that failed.  `Erases` ties each of them to its original.

* `Call.erases_performTraced` — over the calls of POSIX, with the history forgotten, they are the calls of
  the system.
* `Call.reportsLast_iff` — when the exception of a call has the number of the call that failed last.
* `Call.recoveryReported_posix_iff` — what that means for a mutex that follows POSIX.
-/

set_option autoImplicit false

namespace AxzlCore

open Errno FailureTrace Outcomes Outcomes.Comp RobustMutex

/-- The OS calls on a `pthread_mutex_t` that is in use: the answers each may give, with the state after. -/
structure MutexOs (S : Type) where
  lock : S → List (Rc × S)
  clocklock : ClockIdT → Timespec → S → List (Rc × S)
  trylock : S → List (Rc × S)
  unlock : S → List (Rc × S)
  consistent : S → List (Rc × S)

/-- The calls of the thread `t` on a mutex that follows POSIX. -/
def MutexOs.posix {T : Type} [DecidableEq T] (attr : Attr) (t : T) (rcConsistent : Rc) :
    MutexOs (State T) where
  lock := RobustMutex.lock attr.kind t
  clocklock _ _ := RobustMutex.clocklock attr.kind t
  trylock := RobustMutex.trylock attr.kind t
  unlock := RobustMutex.unlock attr t
  consistent s := [(rcConsistent, setConsistent rcConsistent s)]

namespace Mutex

/-! ## The operations -/

section Operations

variable {S : Type} (os : MutexOs S) (m : Mutex)

/-- `Mutex::LockFail`. -/
def lockFailTraced (rc : Rc) : Comp (Traced S) SystemError Unit :=
  if rc = EOWNERDEAD ∧ m.mRobust = true then do
    let rcConsistent ← osCall id (ofList os.consistent)
    if rcConsistent = 0 then
      pure ()
    else
      raise (throwSystemError m.mName "LockFail" rc "pthread_mutex_consistent failure")
  else
    raise (throwSystemError m.mName "LockFail" rc "pthread_mutex_lock")

/-- `Mutex::UnlockFail`. -/
def unlockFailTraced (rc : Rc) : Comp (Traced S) SystemError Unit :=
  raise (throwSystemError m.mName "UnlockFail" rc "pthread_mutex_unlock")

/-- `Mutex::Lock`. -/
def lockTraced : Comp (Traced S) SystemError Unit := do
  let rc ← osCall id (ofList os.lock)
  if rc ≠ 0 then lockFailTraced os m rc else pure ()

/-- `Mutex::Unlock`. -/
def unlockTraced : Comp (Traced S) SystemError Unit := do
  let rc ← osCall id (ofList os.unlock)
  if rc ≠ 0 then unlockFailTraced m rc else pure ()

/-- `Mutex::TryLock`. -/
def tryLockTraced : Comp (Traced S) SystemError Bool := do
  let rc ← osCall id (ofList os.trylock)
  return decide (rc = 0)

/-- `Mutex::TryLockUntil`. -/
def tryLockUntilTraced (timeoutTp : TimePoint) : Comp (Traced S) SystemError Bool := do
  let clkId := clockId timeoutTp
  let ts := durationToTimespec timeoutTp
  let rc ← osCall id (ofList (os.clocklock clkId ts))
  if rc = 0 then
    return true
  else if rc ≠ ETIMEDOUT then do
    lockFailTraced os m rc
    return false
  else
    return false

/-- `Mutex::TryLockFor`, called when the steady clock reads `now`. -/
def tryLockForTraced (now : Int) (duration : Duration) : Comp (Traced S) SystemError Bool :=
  let timeout := (steadyNow now).add duration
  tryLockUntilTraced os m timeout

end Operations

/-! ## With the history forgotten -/

section Erasure

variable {T : Type} [DecidableEq T] (attr : Attr) (m : Mutex) (t : T) (rcConsistent : Rc)

theorem erases_lockFail (rc : Rc) :
    Erases (lockFailTraced (.posix attr t rcConsistent) m rc) (lockFail m rcConsistent rc) :=
  .ite (.bind (erases_osCall _ _) fun _ => .ite (erases_pure _) (erases_raise _)) (erases_raise _)

theorem erases_lock :
    Erases (lockTraced (.posix attr t rcConsistent) m) (lock attr m t rcConsistent) :=
  .bind (erases_osCall _ _) fun _ => .ite (erases_lockFail attr m t rcConsistent _) (erases_pure _)

theorem erases_unlock : Erases (unlockTraced (.posix attr t rcConsistent) m) (unlock attr m t) :=
  .bind (erases_osCall _ _) fun _ => .ite (erases_raise _) (erases_pure _)

theorem erases_tryLock : Erases (tryLockTraced (.posix attr t rcConsistent)) (tryLock attr t) :=
  .bind (erases_osCall _ _) fun _ => erases_pure _

theorem erases_tryLockUntil (timeoutTp : TimePoint) :
    Erases (tryLockUntilTraced (.posix attr t rcConsistent) m timeoutTp)
      (tryLockUntil attr m t rcConsistent timeoutTp) :=
  .bind (erases_osCall _ _) fun _ => .ite (erases_pure _)
    (.ite (.bind (erases_lockFail attr m t rcConsistent _) fun _ => erases_pure _) (erases_pure _))

end Erasure

/-! ## The number reported -/

/-- After an acquisition with the answer `rc`: a recovery through this handle succeeds, or fails with the
very number the acquisition had. -/
def RecoveryReported {S : Type} (os : MutexOs S) (m : Mutex) (rc : Rc) (s : S) : Prop :=
  rc = EOWNERDEAD → m.mRobust = true → ∀ rcConsistent s', (rcConsistent, s') ∈ os.consistent s →
    rcConsistent = 0 ∨ rcConsistent = EOWNERDEAD

section Reports

variable {S : Type} {os : MutexOs S} {m : Mutex} {rc : Rc} {s : S}

/-- An answer other than that of an abandoned mutex starts no recovery. -/
theorem recoveryReported_of_ne (hrc : rc ≠ EOWNERDEAD) : RecoveryReported os m rc s :=
  fun hdead => absurd hdead hrc

/-- `LockFail` after an acquisition that failed with `rc`. -/
theorem reportsLast_lockFail :
    ReportsLast SystemError.code (lockFailTraced os m rc) ⟨s, [rc]⟩ ↔ RecoveryReported os m rc s := by
  unfold lockFailTraced
  split
  · next hguard =>
      obtain ⟨rfl, hrobust⟩ := hguard
      unfold RecoveryReported
      rw [reportsLast_osCall_bind, forall_prop_of_true rfl, forall_prop_of_true hrobust]
      refine forall₃_congr fun rcConsistent s' _ => ?_
      split
      · next hzero => exact iff_of_true (reportsLast_pure _) (.inl hzero)
      · next hzero =>
          -- the code thrown is that of the acquisition, the last failure that of the recovery
          rw [reportsLast_raise, id_eq, note_of_ne hzero]
          simp [hzero]
  · next hguard =>
      rw [reportsLast_raise]
      exact iff_of_true rfl fun hrc hrobust => absurd ⟨hrc, hrobust⟩ hguard

theorem reportsLast_lock :
    ReportsLast SystemError.code (lockTraced os m) ⟨s, []⟩ ↔
      ∀ rc s₁, (rc, s₁) ∈ os.lock s → RecoveryReported os m rc s₁ := by
  unfold lockTraced
  rw [reportsLast_osCall_bind]
  refine forall₃_congr fun rc s₁ _ => ?_
  split
  · next hrc =>
      rw [id_eq, note_of_ne hrc]
      exact reportsLast_lockFail
  · next hrc =>
      rw [not_not] at hrc
      subst hrc
      exact iff_of_true (reportsLast_pure _) (recoveryReported_of_ne (by decide))

theorem reportsLast_tryLockUntil (timeoutTp : TimePoint) :
    ReportsLast SystemError.code (tryLockUntilTraced os m timeoutTp) ⟨s, []⟩ ↔
      ∀ rc s₁, (rc, s₁) ∈ os.clocklock (clockId timeoutTp) (durationToTimespec timeoutTp) s →
        RecoveryReported os m rc s₁ := by
  unfold tryLockUntilTraced
  rw [reportsLast_osCall_bind]
  refine forall₃_congr fun rc s₁ _ => ?_
  split
  · next hrc =>
      subst hrc
      exact iff_of_true (reportsLast_pure _) (recoveryReported_of_ne (by decide))
  · next hrc =>
      split
      · rw [id_eq, note_of_ne hrc, reportsLast_bind_pure]
        exact reportsLast_lockFail
      · next htimeout =>
          rw [not_not] at htimeout
          subst htimeout
          exact iff_of_true (reportsLast_pure _) (recoveryReported_of_ne (by decide))

theorem reportsLast_unlock : ReportsLast SystemError.code (unlockTraced os m) ⟨s, []⟩ := by
  unfold unlockTraced
  rw [reportsLast_osCall_bind]
  intro rc s₁ _
  split
  · next hrc =>
      rw [id_eq, note_of_ne hrc]
      exact reportsLast_raise.mpr rfl
  · exact reportsLast_pure _

theorem reportsLast_tryLock : ReportsLast SystemError.code (tryLockTraced os) ⟨s, []⟩ := by
  unfold tryLockTraced
  rw [reportsLast_osCall_bind]
  intro rc s₁ _
  exact reportsLast_pure _

end Reports

end Mutex

namespace Call

/-- The operation behind a call. -/
def performTraced {S : Type} (os : MutexOs S) (m : Mutex) : Call → Comp (Traced S) SystemError Reply
  | .lock => do
      let u ← m.lockTraced os
      return (fun _ => Reply.void) u
  | .unlock => do
      let u ← m.unlockTraced os
      return (fun _ => Reply.void) u
  | .tryLock => do
      let b ← Mutex.tryLockTraced os
      return Reply.bool b
  | .tryLockFor now duration => do
      let b ← m.tryLockForTraced os now duration
      return Reply.bool b
  | .tryLockUntil timeoutTp => do
      let b ← m.tryLockUntilTraced os timeoutTp
      return Reply.bool b

/-- Over the calls of POSIX, with the history forgotten, a traced call is the call of the system. -/
theorem erases_performTraced {T : Type} [DecidableEq T] (attr : Attr) (m : Mutex) (t : T)
    (rcConsistent : Rc) (c : Call) :
    Erases (c.performTraced (.posix attr t rcConsistent) m) (c.perform attr m t rcConsistent) := by
  cases c with
  | lock => exact .bind (Mutex.erases_lock attr m t rcConsistent) fun _ => erases_pure _
  | unlock => exact .bind (Mutex.erases_unlock attr m t rcConsistent) fun _ => erases_pure _
  | tryLock => exact .bind (Mutex.erases_tryLock attr t rcConsistent) fun _ => erases_pure _
  | tryLockFor now duration =>
      exact .bind (Mutex.erases_tryLockUntil attr m t rcConsistent _) fun _ => erases_pure _
  | tryLockUntil timeoutTp =>
      exact .bind (Mutex.erases_tryLockUntil attr m t rcConsistent timeoutTp) fun _ => erases_pure _

/-- The answers to the acquisition of a call whose failures go through `LockFail`. -/
def acquisition {S : Type} (os : MutexOs S) : Call → S → List (Rc × S)
  | .lock => os.lock
  | .tryLockFor now duration =>
      os.clocklock (clockId ((steadyNow now).add duration)) (durationToTimespec ((steadyNow now).add duration))
  | .tryLockUntil timeoutTp => os.clocklock (clockId timeoutTp) (durationToTimespec timeoutTp)
  | .unlock | .tryLock => fun _ => []

/-- No acquisition of the call is followed by a recovery that fails with a number of its own. -/
def RecoveryReported {S : Type} (os : MutexOs S) (m : Mutex) (s : S) (c : Call) : Prop :=
  ∀ rc s₁, (rc, s₁) ∈ c.acquisition os s → m.RecoveryReported os rc s₁

/-- **Exactly when a call reports the number of the call that failed last**: when it does not go through
`LockFail` with an abandoned mutex whose recovery fails with a number of its own. -/
theorem reportsLast_iff {S : Type} (os : MutexOs S) (m : Mutex) (c : Call) (s : S) :
    ReportsLast SystemError.code (c.performTraced os m) ⟨s, []⟩ ↔ c.RecoveryReported os m s := by
  have hnothing : ∀ rc s₁, (rc, s₁) ∈ ([] : List (Rc × S)) → m.RecoveryReported os rc s₁ := by
    intro rc s₁ hmem
    cases hmem
  cases c with
  | lock => exact reportsLast_bind_pure.trans Mutex.reportsLast_lock
  | unlock => exact iff_of_true (reportsLast_bind_pure.mpr Mutex.reportsLast_unlock) hnothing
  | tryLock => exact iff_of_true (reportsLast_bind_pure.mpr Mutex.reportsLast_tryLock) hnothing
  | tryLockFor now duration => exact reportsLast_bind_pure.trans (Mutex.reportsLast_tryLockUntil _)
  | tryLockUntil timeoutTp => exact reportsLast_bind_pure.trans (Mutex.reportsLast_tryLockUntil timeoutTp)

/-! ## On a mutex that follows POSIX -/

/-- The calls whose failures go through `LockFail`. -/
def ThroughLockFail : Call → Prop
  | .lock | .tryLockFor _ _ | .tryLockUntil _ => True
  | .unlock | .tryLock => False

section Posix

variable {T : Type} [DecidableEq T] {attr : Attr} {m : Mutex} {t : T} {rcConsistent : Rc} {s : State T}

/-- What depends on the answer `EOWNERDEAD` only depends on whether the mutex is abandoned. -/
theorem recoveryReported_answers_iff {answers : List (Rc × State T)}
    (hacq : ∀ rc s₁, (rc, s₁) ∈ answers → Acquires attr.kind t s rc s₁)
    (hdead : s = .abandoned → (EOWNERDEAD, .held t 0 false) ∈ answers) :
    (∀ rc s₁, (rc, s₁) ∈ answers → m.RecoveryReported (.posix attr t rcConsistent) rc s₁) ↔
      (s = .abandoned → m.mRobust = true → rcConsistent = 0 ∨ rcConsistent = EOWNERDEAD) := by
  constructor
  · intro hall hs hrobust
    exact hall _ _ (hdead hs) rfl hrobust _ _ (List.mem_singleton_self _)
  · intro hrecovery rc s₁ hmem hrc hrobust rcC s₂ hmemC
    obtain ⟨rfl, -⟩ := Prod.mk.inj (List.mem_singleton.mp hmemC)
    exact hrecovery ((hacq rc s₁ hmem).ownerDead_iff.mp hrc) hrobust

/-- On a mutex that follows POSIX the condition is one on the state the call meets. -/
theorem recoveryReported_posix_iff (c : Call) :
    c.RecoveryReported (.posix attr t rcConsistent) m s ↔
      (c.ThroughLockFail → s = .abandoned → m.mRobust = true →
        rcConsistent = 0 ∨ rcConsistent = EOWNERDEAD) := by
  have hclocklock : (∀ rc s₁, (rc, s₁) ∈ RobustMutex.clocklock attr.kind t s →
      m.RecoveryReported (.posix attr t rcConsistent) rc s₁) ↔
        (s = .abandoned → m.mRobust = true → rcConsistent = 0 ∨ rcConsistent = EOWNERDEAD) := by
    apply recoveryReported_answers_iff
    · exact fun _ _ hmem => acquires_of_mem_clocklock hmem
    · rintro rfl
      exact List.mem_singleton_self _
  cases c with
  | lock =>
      refine Iff.trans ?_ true_imp_iff.symm
      apply recoveryReported_answers_iff
      · exact fun _ _ hmem => acquires_of_mem_lock hmem
      · rintro rfl
        exact List.mem_singleton_self _
  | unlock => exact iff_of_true (fun _ _ hmem => by cases hmem) False.elim
  | tryLock => exact iff_of_true (fun _ _ hmem => by cases hmem) False.elim
  | tryLockFor now duration => exact hclocklock.trans true_imp_iff.symm
  | tryLockUntil timeoutTp => exact hclocklock.trans true_imp_iff.symm

end Posix

end Call

end AxzlCore

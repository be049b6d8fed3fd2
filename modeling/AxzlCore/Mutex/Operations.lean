import AxzlCore.Clock.ClockUtility
import AxzlCore.Library.Outcomes
import AxzlCore.Mutex.Construction

/-!
# Locking and unlocking

`Lock`, `Unlock`, `TryLock`, `TryLockFor`, `TryLockUntil` and the two failure routines of `Mutex`, as
computations on the state of the `pthread_mutex_t` the handle points to.  The exception of an outcome is
the one handed to `Axzl::Throw`; the error policy in force is a throwing one.

Parameters that stay fixed through the module: the behaviour `attr` of the object, the handle `m`, the
calling thread `t`, and `rcConsistent`, what `pthread_mutex_consistent` returns if the call makes it.

The `*_cases` theorems invert each operation once: what the completed call did to the mutex, by the
outcome of the OS call it made.  Later modules use these and never unfold an operation.
-/

set_option autoImplicit false

namespace AxzlCore

open Errno Outcomes RobustMutex

variable {T : Type} [DecidableEq T]

/-! ## OS calls -/

def pthreadMutexLock (attr : Attr) (t : T) : Comp (State T) SystemError Rc :=
  Comp.ofList (lock attr.kind t)

def pthreadMutexTrylock (attr : Attr) (t : T) : Comp (State T) SystemError Rc :=
  Comp.ofList (trylock attr.kind t)

/-- `pthread_mutex_clocklock`.  When a wait ends at its deadline is up to the environment, so the clock
and the deadline do not restrict the outcomes. -/
def pthreadMutexClocklock (attr : Attr) (t : T) (_clock : ClockIdT) (_deadline : Timespec) :
    Comp (State T) SystemError Rc :=
  Comp.ofList (clocklock attr.kind t)

def pthreadMutexUnlock (attr : Attr) (t : T) : Comp (State T) SystemError Rc :=
  Comp.ofList (unlock attr t)

/-- `pthread_mutex_consistent`, returning `rc`. -/
def pthreadMutexConsistent (rc : Rc) : Comp (State T) SystemError Rc :=
  Comp.ofList fun s => [(rc, setConsistent rc s)]

namespace Mutex

/-! ## Operations of the class -/

/-- `Mutex::LockFail`. -/
def lockFail (m : Mutex) (rcConsistent rc : Rc) : Comp (State T) SystemError Unit :=
  if rc = EOWNERDEAD ∧ m.mRobust = true then do
    let rcConsistent ← pthreadMutexConsistent rcConsistent
    if rcConsistent = 0 then
      pure ()
    else
      -- the code thrown is that of the acquisition, not the one `pthread_mutex_consistent` returned
      Comp.raise (throwSystemError m.mName "LockFail" rc "pthread_mutex_consistent failure")
  else
    -- also `EOWNERDEAD`, through a handle whose robust flag is clear
    Comp.raise (throwSystemError m.mName "LockFail" rc "pthread_mutex_lock")

/-- `Mutex::UnlockFail`. -/
def unlockFail (m : Mutex) (rc : Rc) : Comp (State T) SystemError Unit :=
  Comp.raise (throwSystemError m.mName "UnlockFail" rc "pthread_mutex_unlock")

/-- `Mutex::Lock`. -/
def lock (attr : Attr) (m : Mutex) (t : T) (rcConsistent : Rc) : Comp (State T) SystemError Unit := do
  let rc ← pthreadMutexLock attr t
  if rc ≠ 0 then lockFail m rcConsistent rc else pure ()

/-- `Mutex::Unlock`. -/
def unlock (attr : Attr) (m : Mutex) (t : T) : Comp (State T) SystemError Unit := do
  let rc ← pthreadMutexUnlock attr t
  if rc ≠ 0 then unlockFail m rc else pure ()

/-- `Mutex::TryLock`. -/
def tryLock (attr : Attr) (t : T) : Comp (State T) SystemError Bool := do
  let rc ← pthreadMutexTrylock attr t
  -- `EOWNERDEAD` is false as well, although the caller owns the mutex then
  return decide (rc = 0)

/-- `Mutex::TryLockUntil`. -/
def tryLockUntil (attr : Attr) (m : Mutex) (t : T) (rcConsistent : Rc) (timeoutTp : TimePoint) :
    Comp (State T) SystemError Bool := do
  let clkId := clockId timeoutTp
  let ts := durationToTimespec timeoutTp
  let rc ← pthreadMutexClocklock attr t clkId ts
  if rc = 0 then
    return true
  else if rc ≠ ETIMEDOUT then do
    lockFail m rcConsistent rc
    -- `locked` is still false, also when `LockFail` returned normally
    return false
  else
    return false

/-- `Mutex::TryLockFor`, called when the steady clock reads `now`. -/
def tryLockFor (attr : Attr) (m : Mutex) (t : T) (rcConsistent : Rc) (now : Int)
    (duration : Duration) : Comp (State T) SystemError Bool :=
  let timeout := (steadyNow now).add duration
  tryLockUntil attr m t rcConsistent timeout

/-! ## What a completed call did -/

section Cases

variable {attr : Attr} {m : Mutex} {t : T} {rcConsistent rc : Rc} {s s' : State T}

omit [DecidableEq T] in
/-- `LockFail` returns normally exactly when it made an inherited mutex consistent; otherwise it throws
and leaves the mutex alone. -/
theorem lockFail_cases {r : Except SystemError Unit}
    (h : (r, s') ∈ lockFail m rcConsistent rc s) :
    (rc = EOWNERDEAD ∧ (m.mRobust = true ∧ rcConsistent = 0) ∧ r = .ok () ∧
        s' = setConsistent 0 s) ∨
      (¬ (rc = EOWNERDEAD ∧ m.mRobust = true ∧ rcConsistent = 0) ∧ (∃ e, r = .error e) ∧
        s' = s) := by
  unfold lockFail at h
  split at h
  · next hguard =>
      obtain ⟨hrc, hrobust⟩ := hguard
      rw [pthreadMutexConsistent, Comp.mem_ofList_bind] at h
      obtain ⟨a, s₁, hmem, hnext⟩ := h
      obtain ⟨rfl, rfl⟩ := Prod.mk.inj (List.mem_singleton.mp hmem)
      split at hnext
      · next hzero =>
          subst hzero
          obtain ⟨rfl, rfl⟩ := Comp.mem_pure.mp hnext
          exact .inl ⟨hrc, ⟨hrobust, rfl⟩, rfl, rfl⟩
      · next hzero =>
          obtain ⟨rfl, rfl⟩ := Comp.mem_raise.mp hnext
          exact .inr ⟨fun hall => hzero hall.2.2, ⟨_, rfl⟩, setConsistent_of_ne hzero s⟩
  · next hguard =>
      obtain ⟨rfl, rfl⟩ := Comp.mem_raise.mp h
      exact .inr ⟨fun hall => hguard ⟨hall.1, hall.2.1⟩, ⟨_, rfl⟩, rfl⟩

omit [DecidableEq T] in
/-- The failure routine after an acquiring call: it recovers an abandoned mutex through a robust handle,
strands it through any other, and throws without effect on every other error. -/
theorem lockFail_of_acquires {r : Except SystemError Unit} {s₁ : State T}
    (hacq : Acquires attr.kind t s rc s₁) (hrc : rc ≠ 0)
    (h : (r, s') ∈ lockFail m rcConsistent rc s₁) :
    ((m.mRobust = true ∧ rcConsistent = 0) ∧ s = .abandoned ∧ r = .ok () ∧
        s' = .held t 0 true) ∨
      (¬ (m.mRobust = true ∧ rcConsistent = 0) ∧ s = .abandoned ∧ (∃ e, r = .error e) ∧
        s' = .held t 0 false) ∨
      (s ≠ .abandoned ∧ (∃ e, r = .error e) ∧ s' = s) := by
  -- `EOWNERDEAD` is the only error after which the caller owns the mutex
  by_cases hdead : rc = EOWNERDEAD
  · have hs : s = .abandoned := hacq.ownerDead_iff.mp hdead
    subst hs
    obtain ⟨-, rfl⟩ := hacq.of_abandoned
    rcases lockFail_cases h with ⟨-, hrecover, hr, hs'⟩ | ⟨hnot, hr, hs'⟩
    · exact .inl ⟨hrecover, rfl, hr, by rw [hs', setConsistent_held]⟩
    · exact .inr (.inl ⟨fun hall => hnot ⟨hdead, hall⟩, rfl, hr, hs'⟩)
  · have hs : s ≠ .abandoned := fun hs => hdead (hacq.ownerDead_iff.mpr hs)
    have hsame : s₁ = s := hacq.eq_of_error hrc hdead
    rcases lockFail_cases h with ⟨hrc', -⟩ | ⟨-, hr, hs'⟩
    · exact absurd hrc' hdead
    · exact .inr (.inr ⟨hs, hr, hs'.trans hsame⟩)

/-- `Lock`. -/
theorem lock_cases {r : Except SystemError Unit} (h : (r, s') ∈ lock attr m t rcConsistent s) :
    (Acquires attr.kind t s 0 s' ∧ r = .ok ()) ∨
      ((m.mRobust = true ∧ rcConsistent = 0) ∧ s = .abandoned ∧ r = .ok () ∧
        s' = .held t 0 true) ∨
      (¬ (m.mRobust = true ∧ rcConsistent = 0) ∧ s = .abandoned ∧ (∃ e, r = .error e) ∧
        s' = .held t 0 false) ∨
      (s ≠ .abandoned ∧ (∃ e, r = .error e) ∧ s' = s) := by
  unfold lock at h
  rw [pthreadMutexLock, Comp.mem_ofList_bind] at h
  obtain ⟨rc, s₁, hmem, hnext⟩ := h
  have hacq := acquires_of_mem_lock hmem
  split at hnext
  · next hrc => exact .inr (lockFail_of_acquires hacq hrc hnext)
  · next hrc =>
      obtain ⟨rfl, rfl⟩ := Comp.mem_pure.mp hnext
      rw [not_not] at hrc
      subst hrc
      exact .inl ⟨hacq, rfl⟩

omit [DecidableEq T] in
theorem lockFail_of_ne (m : Mutex) (rcConsistent : Rc) (hrc : rc ≠ EOWNERDEAD) :
    (lockFail m rcConsistent rc : Comp (State T) SystemError Unit) =
      Comp.raise (throwSystemError m.mName "LockFail" rc "pthread_mutex_lock") := by
  unfold lockFail
  rw [if_neg fun hguard => hrc hguard.1]

/-- As long as the mutex is not abandoned, `Lock` does the same through every handle. -/
theorem lock_of_not_abandoned {r : Except SystemError Unit} (hs : s ≠ .abandoned)
    (h : (r, s') ∈ lock attr m t rcConsistent s) (m' : Mutex) :
    ∃ r', (r', s') ∈ lock attr m' t rcConsistent s ∧
      r'.mapError SystemError.code = r.mapError SystemError.code := by
  unfold lock at h
  rw [pthreadMutexLock, Comp.mem_ofList_bind] at h
  obtain ⟨rc, s₁, hmem, hnext⟩ := h
  have hdead : rc ≠ EOWNERDEAD := fun hdead =>
    hs ((acquires_of_mem_lock hmem).ownerDead_iff.mp hdead)
  unfold lock
  simp only [pthreadMutexLock, Comp.mem_ofList_bind]
  split at hnext
  · next hrc =>
      rw [lockFail_of_ne m rcConsistent hdead] at hnext
      obtain ⟨rfl, rfl⟩ := Comp.mem_raise.mp hnext
      refine ⟨.error (throwSystemError m'.mName "LockFail" rc "pthread_mutex_lock"),
        ⟨rc, s', hmem, ?_⟩, rfl⟩
      rw [if_pos hrc, lockFail_of_ne m' rcConsistent hdead]
      exact Comp.mem_raise.mpr ⟨rfl, rfl⟩
  · next hrc =>
      obtain ⟨rfl, rfl⟩ := Comp.mem_pure.mp hnext
      refine ⟨.ok (), ⟨rc, s', hmem, ?_⟩, rfl⟩
      rw [if_neg hrc]
      exact Comp.mem_pure.mpr ⟨rfl, rfl⟩

/-- Through a robust handle `Lock` recovers an abandoned mutex. -/
theorem lock_abandoned_of_robust (hrobust : m.mRobust = true) :
    (.ok (), .held t 0 true) ∈ lock attr m t 0 (.abandoned : State T) := by
  unfold lock
  simp only [pthreadMutexLock, Comp.mem_ofList_bind]
  refine ⟨EOWNERDEAD, .held t 0 false, by simp [RobustMutex.lock, acquire], ?_⟩
  rw [if_pos (by decide)]
  unfold lockFail
  rw [if_pos ⟨rfl, hrobust⟩]
  simp only [pthreadMutexConsistent, Comp.mem_ofList_bind]
  exact ⟨0, .held t 0 true, by simp, Comp.mem_pure.mpr ⟨rfl, rfl⟩⟩

/-- `TryLock`: it reports an inherited mutex as not acquired, and leaves it inherited. -/
theorem tryLock_cases {r : Except SystemError Bool} (h : (r, s') ∈ tryLock attr t s) :
    (Acquires attr.kind t s 0 s' ∧ r = .ok true) ∨
      (s = .abandoned ∧ r = .ok false ∧ s' = .held t 0 false) ∨
      (s ≠ .abandoned ∧ r = .ok false ∧ s' = s) := by
  unfold tryLock at h
  rw [pthreadMutexTrylock, Comp.mem_ofList_bind] at h
  obtain ⟨rc, s₁, hmem, hnext⟩ := h
  have hacq := acquires_of_mem_trylock hmem
  obtain ⟨rfl, rfl⟩ := Comp.mem_pure.mp hnext
  by_cases hrc : rc = 0
  · subst hrc
    exact .inl ⟨hacq, rfl⟩
  · by_cases hs : s = .abandoned
    · subst hs
      exact .inr (.inl ⟨rfl, by simp [hrc], hacq.of_abandoned.2⟩)
    · have hdead : rc ≠ EOWNERDEAD := fun hdead => hs (hacq.ownerDead_iff.mp hdead)
      exact .inr (.inr ⟨hs, by simp [hrc], hacq.eq_of_error hrc hdead⟩)

/-- `TryLockUntil`: a recovered mutex is reported as not acquired. -/
theorem tryLockUntil_cases {r : Except SystemError Bool} {timeoutTp : TimePoint}
    (h : (r, s') ∈ tryLockUntil attr m t rcConsistent timeoutTp s) :
    (Acquires attr.kind t s 0 s' ∧ r = .ok true) ∨
      ((m.mRobust = true ∧ rcConsistent = 0) ∧ s = .abandoned ∧ r = .ok false ∧
        s' = .held t 0 true) ∨
      (¬ (m.mRobust = true ∧ rcConsistent = 0) ∧ s = .abandoned ∧ (∃ e, r = .error e) ∧
        s' = .held t 0 false) ∨
      (s ≠ .abandoned ∧ (r = .ok false ∨ ∃ e, r = .error e) ∧ s' = s) := by
  unfold tryLockUntil at h
  simp only [pthreadMutexClocklock] at h
  rw [Comp.mem_ofList_bind] at h
  obtain ⟨rc, s₁, hmem, hnext⟩ := h
  have hacq := acquires_of_mem_clocklock hmem
  split at hnext
  · next hrc =>
      subst hrc
      obtain ⟨rfl, rfl⟩ := Comp.mem_pure.mp hnext
      exact .inl ⟨hacq, rfl⟩
  · next hrc =>
      split at hnext
      · rcases Comp.mem_bind.mp hnext with ⟨u, s₂, hfail, hret⟩ | ⟨e, hfail, rfl⟩
        · obtain ⟨rfl, rfl⟩ := Comp.mem_pure.mp hret
          rcases lockFail_of_acquires hacq hrc hfail with
            ⟨hrecover, hs, -, hs'⟩ | ⟨-, -, ⟨e, he⟩, -⟩ | ⟨-, ⟨e, he⟩, -⟩
          · exact .inr (.inl ⟨hrecover, hs, rfl, hs'⟩)
          · cases he
          · cases he
        · rcases lockFail_of_acquires hacq hrc hfail with
            ⟨-, -, he, -⟩ | ⟨hnot, hs, -, hs'⟩ | ⟨hs, -, hs'⟩
          · cases he
          · exact .inr (.inr (.inl ⟨hnot, hs, ⟨e, rfl⟩, hs'⟩))
          · exact .inr (.inr (.inr ⟨hs, .inr ⟨e, rfl⟩, hs'⟩))
      · next htimeout =>
          -- the wait ended at its deadline
          rw [not_not] at htimeout
          obtain ⟨rfl, rfl⟩ := Comp.mem_pure.mp hnext
          have hdead : rc ≠ EOWNERDEAD := by
            rw [htimeout]
            decide
          have hs : s ≠ .abandoned := fun hs => hdead (hacq.ownerDead_iff.mpr hs)
          exact .inr (.inr (.inr ⟨hs, .inl rfl, hacq.eq_of_error hrc hdead⟩))

/-- `Unlock` does to the mutex what `pthread_mutex_unlock` does. -/
theorem unlock_cases {r : Except SystemError Unit} (h : (r, s') ∈ unlock attr m t s) :
    ∃ rc, (rc, s') ∈ RobustMutex.unlock attr t s ∧ (r = .ok () ↔ rc = 0) := by
  unfold unlock at h
  rw [pthreadMutexUnlock, Comp.mem_ofList_bind] at h
  obtain ⟨rc, s₁, hmem, hnext⟩ := h
  refine ⟨rc, ?_⟩
  split at hnext
  · next hrc =>
      obtain ⟨rfl, rfl⟩ := Comp.mem_raise.mp hnext
      exact ⟨hmem, by simp [hrc]⟩
  · next hrc =>
      obtain ⟨rfl, rfl⟩ := Comp.mem_pure.mp hnext
      rw [not_not] at hrc
      exact ⟨hmem, by simp [hrc]⟩

end Cases

end Mutex

end AxzlCore

import AxzlCore.Mutex.Handles
import AxzlCore.Mutex.SharedMutex

/-!
# The class never drives a mutex to `ENOTRECOVERABLE`

Every acquiring operation reports soundly: whatever level it leaves inconsistent, it does not report
(`perform_sound`).  So the system refines the reporting discipline of `RobustMutex` step by step
(`session_step`), and as long as every thread calls `Unlock` only for acquisitions that were reported to
it, no run reaches a mutex that is not recoverable.
-/

set_option autoImplicit false

namespace AxzlCore

open Errno Function Outcomes RobustMutex Runs

variable {T H : Type} [DecidableEq T]

/-- The thread unlocks only what was reported to it as acquired. -/
def UnlocksReported (s : Sys T) : Action T H → Prop
  | .call t _ .unlock _ _ => 0 < s.reported t
  | _ => True

omit [DecidableEq T] in
/-- A successful return of the OS is sound, reported or not. -/
theorem sound_of_acquires {kind : Kind} {t : T} {s s' : State T} (h : Acquires kind t s 0 s')
    (ok : Bool) : Sound t s ok s' := by
  rcases h.of_zero with ⟨rfl, rfl⟩ | ⟨n, c, -, rfl, rfl⟩
  · exact .fresh
  · exact .again

/-- **Every acquiring operation reports soundly.** -/
theorem perform_sound {attr : Attr} {m : Mutex} {t : T} {rcConsistent : Rc} {s s' : State T}
    {c : Call} {r : Except SystemError Reply} (hc : c ≠ .unlock)
    (h : (r, s') ∈ c.perform attr m t rcConsistent s) : Sound t s (c.reports r) s' := by
  by_cases htimed : c.IsTimed
  · obtain ⟨timeoutTp, r₀, hmem, rfl⟩ := mem_perform_timed htimed h
    have hreports : ∀ r₁ : Except SystemError Bool,
        c.reports (r₁.map Reply.bool) = match r₁ with
          | .ok b => b
          | .error _ => false := by
      intro r₁
      cases c with
      | lock | unlock | tryLock => exact htimed.elim
      | tryLockFor now duration => cases r₁ <;> rfl
      | tryLockUntil tp => cases r₁ <;> rfl
    rw [hreports]
    rcases Mutex.tryLockUntil_cases hmem with
      ⟨hacq, rfl⟩ | ⟨-, rfl, rfl, rfl⟩ | ⟨-, rfl, ⟨e, rfl⟩, rfl⟩ | ⟨-, rfl | ⟨e, rfl⟩, rfl⟩
    · exact sound_of_acquires hacq true
    · exact .recovered
    · exact .inherited
    · exact .unchanged
    · exact .unchanged
  · cases c with
    | unlock => exact absurd rfl hc
    | tryLockFor now duration | tryLockUntil tp => exact absurd trivial htimed
    | lock =>
        obtain ⟨r₀, hmem, rfl⟩ := mem_perform_lock.mp h
        rcases Mutex.lock_cases hmem with
          ⟨hacq, rfl⟩ | ⟨-, rfl, rfl, rfl⟩ | ⟨-, rfl, ⟨e, rfl⟩, rfl⟩ | ⟨-, ⟨e, rfl⟩, rfl⟩
        · exact sound_of_acquires hacq true
        · exact .recovered
        · exact .inherited
        · exact .unchanged
    | tryLock =>
        obtain ⟨r₀, hmem, rfl⟩ := mem_perform_tryLock.mp h
        rcases Mutex.tryLock_cases hmem with ⟨hacq, rfl⟩ | ⟨rfl, rfl, rfl⟩ | ⟨-, rfl, rfl⟩
        · exact sound_of_acquires hacq true
        · exact .inherited
        · exact .unchanged

/-- Each disciplined step of the system is a step of the reporting discipline. -/
theorem session_step {attr : Attr} {handle : H → Mutex} {s s' : Sys T} {a : Action T H}
    (hdisc : UnlocksReported s a) (hstep : SysStep attr handle s a s') :
    SessionStep attr s.toSession s'.toSession := by
  cases hstep with
  | die halive => exact .die _
  | @call t h c rcConsistent r m halive hcall =>
      cases c with
      | unlock =>
          -- the discipline is what makes this a release of a reported level
          obtain ⟨r₀, hmem, rfl⟩ := mem_perform_unlock.mp hcall
          obtain ⟨rc, hunlock, -⟩ := Mutex.unlock_cases hmem
          exact .release hdisc hunlock
      | lock => exact .acquire (perform_sound (by simp) hcall)
      | tryLock => exact .acquire (perform_sound (by simp) hcall)
      | tryLockFor now duration => exact .acquire (perform_sound (by simp) hcall)
      | tryLockUntil tp => exact .acquire (perform_sound (by simp) hcall)

/-- **No run makes the mutex not recoverable**, whatever the handles, the mutex type, the interleaving,
the deaths and the outcomes of `pthread_mutex_consistent` are, provided every `Unlock` answers an
acquisition reported to its caller. -/
theorem mutex_stays_recoverable {attr : Attr} {handle : H → Mutex}
    {trs : List (Transition (Sys T) (Action T H))} {s : Sys T}
    (hrun : Run (SysStep attr handle) Sys.init trs s)
    (hdisc : ∀ tr ∈ trs, UnlocksReported tr.pre tr.act) : s.mtx ≠ .notRecoverable := by
  have hsteps : Relation.ReflTransGen (SessionStep attr) (Sys.init : Sys T).toSession s.toSession :=
    hrun.simulation (fun _ => True) UnlocksReported (fun _ _ _ _ _ _ => trivial)
      (fun _ _ _ _ hok hstep => .single (session_step hok hstep)) hdisc trivial
  exact (backed_of_steps backed_init hsteps).recoverable

/-- An owner dies; the next thread recovers the mutex and unlocks it. -/
theorem mutex_stays_recoverable_after_death :
    ∃ trs s, Run (SysStep Mutex.shmBehaviour shmHandle) (Sys.init : Sys Nat) trs s ∧
      (∃ tr ∈ trs, ∃ r, tr.act = .call 1 .created .unlock 0 r) ∧ s.mtx ≠ .notRecoverable := by
  have hlock : ((.ok .void, .held 1 0 true) : Except SystemError Reply × State Nat) ∈
      Call.lock.perform Mutex.shmBehaviour (shmHandle .created) 1 0 .abandoned := by decide
  have hunlock : ((.ok .void, .free) : Except SystemError Reply × State Nat) ∈
      Call.unlock.perform Mutex.shmBehaviour (shmHandle .created) 1 0 (.held 1 0 true) := by decide
  have hne : 1 ≠ 0 := by decide
  have hrun := (run_call_abandoned rfl shmHandle .created .created hne hlock).append
    (.single (.call rfl hunlock))
  refine ⟨_, _, hrun, ⟨_, List.mem_append_right _ List.mem_cons_self, _, rfl⟩, ?_⟩
  apply mutex_stays_recoverable hrun
  simp [abandonTrs, UnlocksReported, Call.account, Call.reports, note_self]

end AxzlCore

import AxzlCore.Mutex.Handles
import AxzlCore.Mutex.SharedMutex

/-!
# What `TryLockFor` and `TryLockUntil` report

`TryLockUntil` sets its result to true only when `pthread_mutex_clocklock` returns zero.  On `EOWNERDEAD` the
caller owns the mutex already; `LockFail` then returns normally (it made the mutex consistent) or throws,
and in both cases the caller is told that it does not hold what it holds.

* `truthful_of_not_abandoned` — on every other mutex the report is right, whatever the mutex type, the
  handle, the deadline and the outcome of `pthread_mutex_consistent`.
* `not_truthful_of_abandoned` — on an abandoned mutex it never is.
* `timed_calls_truthful_iff` — so the timed calls of a run report truthfully exactly when none of them
  meets the mutex abandoned.
-/

set_option autoImplicit false

namespace AxzlCore

open Errno Outcomes RobustMutex Runs

variable {T H : Type} [DecidableEq T]

/-- A timed call of `t` through `m` from `s` to `s'` with result `r` reports ownership truthfully. -/
structure Truthful (attr : Attr) (m : Mutex) (t : T) (rcConsistent : Rc) (s : State T)
    (r : Except SystemError Reply) (s' : State T) : Prop where
  /-- True is returned exactly when the call gave the caller one more level. -/
  acquired_iff : r = .ok (.bool true) ↔ s'.holds t = s.holds t + 1
  /-- After false or an exception the caller's ownership is what it was. -/
  unchanged : r ≠ .ok (.bool true) → s'.holds t = s.holds t
  /-- What counts as acquired is what `Lock` would have returned normally with. -/
  agrees : r = .ok (.bool true) ↔ (.ok .void, s') ∈ Call.lock.perform attr m t rcConsistent s

/-- `Lock` returning normally, on a mutex that is not abandoned, gives the caller a level. -/
theorem holds_of_lock {attr : Attr} {m : Mutex} {t : T} {rcConsistent : Rc} {s s' : State T}
    (hs : s ≠ .abandoned) (h : (.ok .void, s') ∈ Call.lock.perform attr m t rcConsistent s) :
    s'.holds t = s.holds t + 1 := by
  obtain ⟨r₀, hmem, hr⟩ := mem_perform_lock.mp h
  rcases Mutex.lock_cases hmem with
    ⟨hacq, -⟩ | ⟨-, habandoned, -⟩ | ⟨-, habandoned, -⟩ | ⟨-, ⟨e, rfl⟩, -⟩
  · exact hacq.holds_of_zero
  · exact absurd habandoned hs
  · exact absurd habandoned hs
  · cases hr

section Call

variable {attr : Attr} {m : Mutex} {t : T} {rcConsistent : Rc} {s s' : State T} {c : Call}
  {r : Except SystemError Reply}

/-- On a mutex that is not abandoned a timed call reports truthfully. -/
theorem truthful_of_not_abandoned (hc : c.IsTimed) (hs : s ≠ .abandoned)
    (h : (r, s') ∈ c.perform attr m t rcConsistent s) :
    Truthful attr m t rcConsistent s r s' := by
  obtain ⟨timeoutTp, r₀, hmem, rfl⟩ := mem_perform_timed hc h
  rcases Mutex.tryLockUntil_cases hmem with
    ⟨hacq, rfl⟩ | ⟨-, habandoned, -⟩ | ⟨-, habandoned, -⟩ | ⟨-, hr, rfl⟩
  · have hgain := hacq.holds_of_zero
    exact ⟨iff_of_true rfl hgain, fun hne => absurd rfl hne, iff_of_true rfl (lock_of_acquires hacq)⟩
  · exact absurd habandoned hs
  · exact absurd habandoned hs
  · have hfalse : r₀.map Reply.bool ≠ .ok (.bool true) := by
      rcases hr with rfl | ⟨e, rfl⟩
      · simp [Except.map]
      · simp [Except.map]
    -- a `Lock` that returns normally would have given a level, and there is none
    have hnolock : (.ok .void, s') ∉ Call.lock.perform attr m t rcConsistent s' := by
      intro hlock
      have hgain := holds_of_lock hs hlock
      omega
    exact ⟨iff_of_false hfalse (by omega), fun _ => rfl, iff_of_false hfalse hnolock⟩

/-- On an abandoned mutex a timed call makes the caller the owner and says it did not. -/
theorem not_truthful_of_abandoned (hc : c.IsTimed)
    (h : (r, s') ∈ c.perform attr m t rcConsistent .abandoned) :
    ¬ Truthful attr m t rcConsistent .abandoned r s' := by
  intro htruthful
  obtain ⟨timeoutTp, r₀, hmem, rfl⟩ := mem_perform_timed hc h
  have howns : s'.holds t = 1 ∧ r₀ ≠ .ok true := by
    rcases Mutex.tryLockUntil_cases hmem with
      ⟨hacq, -⟩ | ⟨-, -, rfl, rfl⟩ | ⟨-, -, ⟨e, rfl⟩, rfl⟩ | ⟨hs, -⟩
    · exact absurd hacq.of_abandoned.1 (by decide)
    · exact ⟨holds_held_self t 0 true, by simp⟩
    · exact ⟨holds_held_self t 0 false, by simp⟩
    · exact absurd rfl hs
  obtain ⟨hholds, hne⟩ := howns
  have hreport := htruthful.acquired_iff.mpr hholds
  cases r₀ with
  | ok b =>
      apply hne
      injection hreport with hbool
      injection hbool with hb
      rw [hb]
  | error e => cases hreport

end Call

/-- The timed calls of a run report truthfully. -/
def TimedTruthful (attr : Attr) (handle : H → Mutex) (tr : Transition (Sys T) (Action T H)) : Prop :=
  match tr.act with
  | .call t h c rcConsistent r =>
      c.IsTimed → Truthful attr (handle h) t rcConsistent tr.pre.mtx r tr.post.mtx
  | .die _ => True

/-- No timed call meets the mutex abandoned. -/
def TimedNotOnAbandoned (tr : Transition (Sys T) (Action T H)) : Prop :=
  match tr.act with
  | .call _ _ c _ _ => c.IsTimed → tr.pre.mtx ≠ .abandoned
  | .die _ => True

/-- **Exactly when timed acquisition reports truthfully.**  In a run over any mutex and any handles, every
timed call reports truthfully if and only if none of them meets the mutex abandoned. -/
theorem timed_calls_truthful_iff {attr : Attr} {handle : H → Mutex}
    {trs : List (Transition (Sys T) (Action T H))} {s : Sys T}
    (hrun : Run (SysStep attr handle) Sys.init trs s) :
    (∀ tr ∈ trs, TimedTruthful attr handle tr) ↔ ∀ tr ∈ trs, TimedNotOnAbandoned tr := by
  refine hrun.forall_iff fun tr _ hstep => ?_
  obtain ⟨pre, act, post⟩ := tr
  change SysStep attr handle pre act post at hstep
  cases hstep with
  | die halive => exact Iff.rfl
  | @call t h c rcConsistent r m halive hcall =>
      show (c.IsTimed → Truthful attr (handle h) t rcConsistent pre.mtx r m) ↔
        (c.IsTimed → pre.mtx ≠ .abandoned)
      constructor
      · intro htruthful hc habandoned
        have htr := htruthful hc
        rw [habandoned] at hcall htr
        exact not_truthful_of_abandoned hc hcall htr
      · intro hnot hc
        exact truthful_of_not_abandoned hc (hnot hc) hcall

/-- A timed call on a free error-checking mutex. -/
theorem timed_calls_truthful_free :
    ∃ trs s, Run (SysStep ⟨.errorcheck, true⟩ shmHandle) (Sys.init : Sys Nat) trs s ∧
      s.mtx = .held 0 0 true ∧ ∀ tr ∈ trs, TimedTruthful ⟨.errorcheck, true⟩ shmHandle tr := by
  have hcall : ((.ok (.bool true), .held 0 0 true) : Except SystemError Reply × State Nat) ∈
      (Call.tryLockFor 0 ⟨5, .second⟩).perform ⟨.errorcheck, true⟩ (shmHandle .created) 0 0 .free := by
    decide
  have hrun : Run (SysStep ⟨.errorcheck, true⟩ shmHandle) (Sys.init : Sys Nat) _ _ :=
    .single (.call rfl hcall)
  refine ⟨_, _, hrun, rfl, (timed_calls_truthful_iff hrun).mpr ?_⟩
  intro tr htr
  rw [List.mem_singleton] at htr
  subst htr
  show True → State.free ≠ State.abandoned
  simp

/-- The thread that recovers a dead owner's mutex by `TryLockUntil` is told that it timed out. -/
theorem timed_recovery_reported_as_timeout :
    ∃ trs s, Run (SysStep ⟨.normal, true⟩ shmHandle) (Sys.init : Sys Nat) trs s ∧
      s.mtx = .held 1 0 true ∧ ¬ ∀ tr ∈ trs, TimedTruthful ⟨.normal, true⟩ shmHandle tr := by
  have hcall : ((.ok (.bool false), .held 1 0 true) : Except SystemError Reply × State Nat) ∈
      (Call.tryLockUntil (steadyNow 0)).perform ⟨.normal, true⟩ (shmHandle .created) 1 0
        .abandoned := by
    decide
  have hne : 1 ≠ 0 := by decide
  have hrun := run_call_abandoned rfl shmHandle .created .created hne hcall
  refine ⟨_, _, hrun, rfl, fun hall => ?_⟩
  have hlast := hall _ (List.mem_append_right _ List.mem_cons_self) trivial
  exact not_truthful_of_abandoned (c := .tryLockUntil _) trivial hcall hlast

end AxzlCore

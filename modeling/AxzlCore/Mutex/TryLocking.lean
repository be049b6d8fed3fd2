import AxzlCore.Mutex.Handles
import AxzlCore.Mutex.SharedMutex

/-!
# What `TryLock` reports

`TryLock` is true exactly when `pthread_mutex_trylock` returns zero; it does not go through `LockFail`.  On an
abandoned mutex the OS call makes its caller the owner and returns `EOWNERDEAD`, so the caller is told that it
failed and holds the mutex inconsistent.  A recursive mutex held like that can be stacked on: the next
`TryLock` of its owner is true without the mutex being consistent.

* `reportsOwnership_of_sound` — from every other state the report is right, whatever the OS answers.
* `tryLock_reports_iff` — the exact condition on one call.
* `trylocks_report_iff` — the exact condition on a run.
-/

set_option autoImplicit false

namespace AxzlCore

open Errno Outcomes RobustMutex Runs

variable {T H : Type} [DecidableEq T]

/-- A `TryLock` of `t` from `s` to `s'` with result `r` reports ownership as it is. -/
structure ReportsOwnership (t : T) (s : State T) (r : Except SystemError Reply) (s' : State T) : Prop where
  /-- True is returned exactly when the call gave a level of a mutex that is consistent. -/
  acquired_iff : r = .ok (.bool true) ↔ s'.holds t = s.holds t + 1 ∧ ∃ n, s' = .held t n true
  /-- After any other result the caller's ownership is what it was. -/
  unchanged : r ≠ .ok (.bool true) → s'.holds t = s.holds t

/-- The states from which `TryLock` by `t` can be believed: the mutex was not left by a dead owner, nor is it
a recursive one that `t` inherited and never made consistent. -/
def SoundForTryLock (kind : Kind) (t : T) (s : State T) : Prop :=
  s ≠ .abandoned ∧ ¬ (kind = .recursive ∧ ∃ n, s = .held t n false)

section Call

variable {attr : Attr} {m : Mutex} {t : T} {rcConsistent : Rc} {s s' : State T}
  {r : Except SystemError Reply}

theorem reportsOwnership_of_sound (hsound : SoundForTryLock attr.kind t s)
    (h : (r, s') ∈ Call.tryLock.perform attr m t rcConsistent s) : ReportsOwnership t s r s' := by
  obtain ⟨r₀, hmem, rfl⟩ := mem_perform_tryLock.mp h
  rcases Mutex.tryLock_cases hmem with ⟨hacq, rfl⟩ | ⟨habandoned, -⟩ | ⟨-, rfl, rfl⟩
  · have hgain := hacq.holds_of_zero
    have hconsistent : ∃ n, s' = .held t n true := by
      rcases hacq.of_zero with ⟨-, rfl⟩ | ⟨n, c, hkind, rfl, rfl⟩
      · exact ⟨0, rfl⟩
      · cases c with
        | true => exact ⟨n + 1, rfl⟩
        | false => exact absurd ⟨hkind, n, rfl⟩ hsound.2
    exact ⟨iff_of_true rfl ⟨hgain, hconsistent⟩, fun hne => absurd rfl hne⟩
  · exact absurd habandoned hsound.1
  · exact ⟨iff_of_false (by simp [Except.map]) (by omega), fun _ => rfl⟩

/-- A `TryLock` on an abandoned mutex completes with false, as its owner. -/
theorem tryLock_abandoned :
    (.ok (.bool false), .held t 0 false) ∈ Call.tryLock.perform attr m t rcConsistent .abandoned := by
  refine mem_perform_tryLock.mpr ⟨.ok false, ?_, rfl⟩
  unfold Mutex.tryLock
  simp only [pthreadMutexTrylock, Comp.mem_ofList_bind]
  exact ⟨EOWNERDEAD, .held t 0 false, by simp [trylock, acquire], Comp.mem_pure.mpr ⟨by decide, rfl⟩⟩

/-- A `TryLock` of the owner of a recursive mutex can complete with true, consistent or not. -/
theorem tryLock_again (hkind : attr.kind = .recursive) (n : Nat) (c : Bool) :
    (.ok (.bool true), .held t (n + 1) c) ∈
      Call.tryLock.perform attr m t rcConsistent (.held t n c) := by
  refine mem_perform_tryLock.mpr ⟨.ok true, ?_, rfl⟩
  unfold Mutex.tryLock
  simp only [pthreadMutexTrylock, Comp.mem_ofList_bind]
  exact ⟨0, .held t (n + 1) c, by simp [trylock, acquire, hkind], Comp.mem_pure.mpr ⟨by decide, rfl⟩⟩

/-- **Exactly when one `TryLock` can be believed**, whatever the OS answers. -/
theorem tryLock_reports_iff :
    (∀ r s', (r, s') ∈ Call.tryLock.perform attr m t rcConsistent s → ReportsOwnership t s r s') ↔
      SoundForTryLock attr.kind t s := by
  constructor
  · intro hreports
    refine ⟨?_, ?_⟩
    · rintro rfl
      -- the caller gained a level and is told that it did not
      have hsame := (hreports _ _ tryLock_abandoned).unchanged (by simp)
      simp at hsame
    · rintro ⟨hkind, n, rfl⟩
      obtain ⟨-, n', hheld⟩ := (hreports _ _ (tryLock_again hkind n false)).acquired_iff.mp rfl
      cases hheld
  · intro hsound r s' h
    exact reportsOwnership_of_sound hsound h

end Call

/-- The `TryLock` calls of a run report ownership as it is, whatever the OS answers. -/
def TryLockReports (attr : Attr) (handle : H → Mutex) (tr : Transition (Sys T) (Action T H)) : Prop :=
  match tr.act with
  | .call t h .tryLock rcConsistent _ => ∀ r m,
      (r, m) ∈ Call.tryLock.perform attr (handle h) t rcConsistent tr.pre.mtx →
        ReportsOwnership t tr.pre.mtx r m
  | _ => True

/-- A `TryLock` of the run is made in a state from which it can be believed. -/
def TryLockOnSound (attr : Attr) (tr : Transition (Sys T) (Action T H)) : Prop :=
  match tr.act with
  | .call t _ .tryLock _ _ => SoundForTryLock attr.kind t tr.pre.mtx
  | _ => True

/-- **Exactly when `TryLock` reports ownership truthfully.**  In a run over any mutex and any handles, with
threads that die at any point, every `TryLock` does if and only if none meets the mutex abandoned, or
recursive and held inconsistent by its caller. -/
theorem trylocks_report_iff {attr : Attr} {handle : H → Mutex}
    {trs : List (Transition (Sys T) (Action T H))} {s : Sys T}
    (hrun : Run (SysStep attr handle) Sys.init trs s) :
    (∀ tr ∈ trs, TryLockReports attr handle tr) ↔ ∀ tr ∈ trs, TryLockOnSound attr tr := by
  refine hrun.forall_iff fun tr _ _ => ?_
  obtain ⟨pre, act, post⟩ := tr
  cases act with
  | die t => exact Iff.rfl
  | call t h c rcConsistent r =>
      cases c with
      | tryLock => exact tryLock_reports_iff
      | lock | unlock | tryLockFor | tryLockUntil => exact Iff.rfl

/-- A `TryLock` on a free recursive mutex. -/
theorem trylocks_report_free :
    ∃ trs s, Run (SysStep ⟨.recursive, true⟩ shmHandle) (Sys.init : Sys Nat) trs s ∧
      s.mtx = .held 0 0 true ∧ ∀ tr ∈ trs, TryLockReports ⟨.recursive, true⟩ shmHandle tr := by
  have hcall : ((.ok (.bool true), .held 0 0 true) : Except SystemError Reply × State Nat) ∈
      Call.tryLock.perform ⟨.recursive, true⟩ (shmHandle .created) 0 0 .free := by
    decide
  have hrun : Run (SysStep ⟨.recursive, true⟩ shmHandle) (Sys.init : Sys Nat) _ _ :=
    .single (.call rfl hcall)
  refine ⟨_, _, hrun, rfl, (trylocks_report_iff hrun).mpr ?_⟩
  intro tr htr
  rw [List.mem_singleton] at htr
  subst htr
  exact ⟨by simp [Sys.init], by simp [Sys.init]⟩

/-- The thread that inherits a dead owner's mutex by `TryLock` is told that it failed. -/
theorem trylock_strands_abandoned :
    ∃ trs s, Run (SysStep ⟨.normal, true⟩ shmHandle) (Sys.init : Sys Nat) trs s ∧
      s.mtx = .held 1 0 false ∧ ¬ ∀ tr ∈ trs, TryLockReports ⟨.normal, true⟩ shmHandle tr := by
  have hcall : ((.ok (.bool false), .held 1 0 false) : Except SystemError Reply × State Nat) ∈
      Call.tryLock.perform ⟨.normal, true⟩ (shmHandle .created) 1 0 .abandoned := tryLock_abandoned
  have hne : 1 ≠ 0 := by decide
  have hrun := run_call_abandoned rfl shmHandle .created .created hne hcall
  refine ⟨_, _, hrun, rfl, fun hall => ?_⟩
  have hlast := hall _ (List.mem_append_right _ List.mem_cons_self)
  exact (tryLock_reports_iff.mp hlast).1 rfl

end AxzlCore

import AxzlCore.Mutex.Handles
import AxzlCore.Mutex.SharedMutex

/-!
# Robust recovery and the handle it goes through

`LockFail` makes an inherited mutex consistent only when the robust flag of the handle is set, and `Init`
is the only place that sets it.  A handle made by `OpenShm` never runs `Init`.  So the recovery of a
shared robust mutex depends on the handle of the thread that happens to be the next acquirer:

* through a created handle `Lock` returns with the mutex held and consistent;
* through an opened handle `Lock` throws, and leaves the caller owning the inconsistent mutex.

`lock_recovers_iff` is the exact condition on a run: nothing goes wrong precisely when no `Lock` meets the
mutex abandoned while some process holds an opened handle.
-/

set_option autoImplicit false

namespace AxzlCore

open Errno Outcomes RobustMutex Runs
open Mutex (shmBehaviour)

variable {T H : Type} [DecidableEq T]

/-- A `Lock` call of `t` from `s` to `s'` with result `r`, as robust locking promises it. -/
structure RobustLock (handle : H → Mutex) (t : T) (rcConsistent : Rc) (s : State T)
    (r : Except SystemError Reply) (s' : State T) : Prop where
  /-- An acquisition returns normally, with the mutex consistent. -/
  acquires : s'.holds t = s.holds t + 1 → r = .ok .void ∧ ∃ n, s' = .held t n true
  /-- A call that throws leaves the caller's ownership as it was. -/
  throws : ∀ e, r = .error e → s'.holds t = s.holds t
  /-- Through any other handle the call has the same outcome. -/
  uniform : ∀ h : H, ∃ r', (r', s') ∈ Call.lock.perform shmBehaviour (handle h) t rcConsistent s ∧
    r'.mapError SystemError.code = r.mapError SystemError.code

/-- The `Lock` calls of a run are robust. -/
def LockRecovers (handle : H → Mutex) (tr : Transition (Sys T) (Action T H)) : Prop :=
  match tr.act with
  | .call t _ .lock rcConsistent r => RobustLock handle t rcConsistent tr.pre.mtx r tr.post.mtx
  | _ => True

/-- A `Lock` that meets the mutex abandoned does so while all handles in use are created ones. -/
def AbandonedOnlyToCreated (origin : H → Origin) (tr : Transition (Sys T) (Action T H)) : Prop :=
  match tr.act with
  | .call _ _ .lock _ _ => tr.pre.mtx = .abandoned → ∀ h, origin h = .created
  | _ => True

/-- `pthread_mutex_consistent` succeeds when it is called. -/
def ConsistentSucceeds : Action T H → Prop
  | .call _ _ _ rcConsistent _ => rcConsistent = 0
  | .die _ => True

section Exact

variable {mtx : Addr} {origin : H → Origin} {handle : H → Mutex}

/-- On a mutex that is not abandoned every completed `Lock` is robust: a normal mutex has no
re-acquisition by its owner, and the failure routine does not read the robust flag. -/
theorem robustLock_of_not_abandoned {h : H} {t : T} {rcConsistent : Rc} {s s' : State T}
    {r : Except SystemError Reply} (hs : s ≠ .abandoned)
    (hcall : (r, s') ∈ Call.lock.perform shmBehaviour (handle h) t rcConsistent s) :
    RobustLock handle t rcConsistent s r s' := by
  obtain ⟨r₀, hmem, rfl⟩ := mem_perform_lock.mp hcall
  have huniform : ∀ h' : H, ∃ r',
      (r', s') ∈ Call.lock.perform shmBehaviour (handle h') t rcConsistent s ∧
        r'.mapError SystemError.code =
          (r₀.map fun _ => Reply.void).mapError SystemError.code := by
    intro h'
    obtain ⟨r₁, hmem', hcode⟩ := Mutex.lock_of_not_abandoned hs hmem (handle h')
    refine ⟨r₁.map fun _ => Reply.void, mem_perform_lock.mpr ⟨r₁, hmem', rfl⟩, ?_⟩
    cases r₁ with
    | ok u => cases r₀ with
      | ok v => rfl
      | error e => cases hcode
    | error e => cases r₀ with
      | ok v => cases hcode
      | error e' =>
          have hcodes : e.code = e'.code := Except.error.inj hcode
          change Except.error e.code = Except.error e'.code
          rw [hcodes]
  rcases Mutex.lock_cases hmem with
    ⟨hacq, rfl⟩ | ⟨-, habandoned, -⟩ | ⟨-, habandoned, -⟩ | ⟨-, ⟨e, rfl⟩, rfl⟩
  · refine ⟨fun _ => ⟨rfl, ?_⟩, fun e he => (by cases he), huniform⟩
    -- only a fresh acquisition is possible: a normal mutex does not stack levels
    rcases hacq.of_zero with ⟨-, rfl⟩ | ⟨n, c, hkind, -, -⟩
    · exact ⟨0, rfl⟩
    · cases hkind
  · exact absurd habandoned hs
  · exact absurd habandoned hs
  · exact ⟨fun hgain => by omega, fun e' _ => rfl, huniform⟩

/-- `Lock` on an abandoned mutex through a handle made by either factory, with a working
`pthread_mutex_consistent`: it recovers the mutex, or strands it. -/
theorem lock_abandoned_cases (hmade : ∀ h, MadeBy mtx (origin h) (handle h)) {h : H} {t : T}
    {s' : State T} {r : Except SystemError Reply}
    (hcall : (r, s') ∈ Call.lock.perform shmBehaviour (handle h) t 0 .abandoned) :
    (origin h = .created ∧ r = .ok .void ∧ s' = .held t 0 true) ∨
      (origin h = .opened ∧ (∃ e, r = .error e) ∧ s' = .held t 0 false) := by
  obtain ⟨r₀, hmem, rfl⟩ := mem_perform_lock.mp hcall
  rcases Mutex.lock_cases hmem with
    ⟨hacq, -⟩ | ⟨⟨hrobust, -⟩, -, rfl, rfl⟩ | ⟨hnot, -, ⟨e, rfl⟩, rfl⟩ | ⟨hs, -⟩
  · exact absurd hacq.of_abandoned.1 (by decide)
  · exact .inl ⟨(hmade h).mRobust_iff.mp hrobust, rfl, rfl⟩
  · refine .inr ⟨?_, ⟨e, rfl⟩, rfl⟩
    cases horigin : origin h with
    | created => exact absurd ⟨(hmade h).mRobust_iff.mpr horigin, rfl⟩ hnot
    | opened => rfl
  · exact absurd rfl hs

/-- A `Lock` that meets the mutex abandoned is robust exactly when all handles are created ones. -/
theorem robustLock_abandoned_iff (hmade : ∀ h, MadeBy mtx (origin h) (handle h)) {h : H} {t : T}
    {s' : State T} {r : Except SystemError Reply}
    (hcall : (r, s') ∈ Call.lock.perform shmBehaviour (handle h) t 0 .abandoned) :
    RobustLock handle t 0 .abandoned r s' ↔ ∀ h', origin h' = .created := by
  constructor
  · intro hrobust h'
    rcases lock_abandoned_cases hmade hcall with ⟨-, -, rfl⟩ | ⟨-, ⟨e, rfl⟩, rfl⟩
    · -- any opened handle would have left the mutex inconsistent
      obtain ⟨r', hcall', -⟩ := hrobust.uniform h'
      rcases lock_abandoned_cases hmade hcall' with ⟨horigin, -⟩ | ⟨-, -, hstate⟩
      · exact horigin
      · exact absurd (State.held.inj hstate).2.2 (by decide)
    · have hsame := hrobust.throws e rfl
      simp at hsame
  · intro hall
    rcases lock_abandoned_cases hmade hcall with ⟨-, rfl, rfl⟩ | ⟨horigin, -⟩
    · refine ⟨fun _ => ⟨rfl, 0, rfl⟩, fun e he => (by cases he), fun h' => ⟨.ok .void, ?_, rfl⟩⟩
      have hflag := (hmade h').mRobust_iff.mpr (hall h')
      exact mem_perform_lock.mpr ⟨_, Mutex.lock_abandoned_of_robust hflag, rfl⟩
    · rw [hall h] at horigin
      cases horigin

/-- **Exactly when robust recovery works through any handle.**  In a run over handles made by the two
factories, every `Lock` is robust if and only if no `Lock` meets the mutex abandoned while an opened
handle is in use. -/
theorem lock_recovers_iff (hmade : ∀ h, MadeBy mtx (origin h) (handle h))
    {trs : List (Transition (Sys T) (Action T H))} {s : Sys T}
    (hrun : Run (SysStep shmBehaviour handle) Sys.init trs s)
    (hconsistent : ∀ tr ∈ trs, ConsistentSucceeds tr.act) :
    (∀ tr ∈ trs, LockRecovers handle tr) ↔ ∀ tr ∈ trs, AbandonedOnlyToCreated origin tr := by
  refine hrun.forall_iff fun tr htr hstep => ?_
  have hzero := hconsistent tr htr
  obtain ⟨pre, act, post⟩ := tr
  change SysStep shmBehaviour handle pre act post at hstep
  cases hstep with
  | die halive => exact Iff.rfl
  | @call t h c rcConsistent r m halive hcall =>
      cases c with
      | unlock | tryLock | tryLockFor _ _ | tryLockUntil _ => exact Iff.rfl
      | lock =>
          change rcConsistent = 0 at hzero
          subst hzero
          change RobustLock handle t 0 pre.mtx r m ↔ (pre.mtx = .abandoned → _)
          by_cases habandoned : pre.mtx = .abandoned
          · rw [habandoned] at hcall ⊢
            rw [robustLock_abandoned_iff hmade hcall]
            simp
          · have hrobust : RobustLock handle t 0 pre.mtx r m := robustLock_of_not_abandoned habandoned hcall
            exact ⟨fun _ habs => absurd habs habandoned, fun _ => hrobust⟩

end Exact

/-! ## Two processes -/

/-- With created handles only, the thread after the dead owner recovers the mutex. -/
theorem lock_recovers_created :
    ∃ trs s, Run (SysStep shmBehaviour fun _ : Unit => shmHandle .created) (Sys.init : Sys Nat) trs s ∧
      s.mtx = .held 1 0 true ∧
      ∀ tr ∈ trs, LockRecovers (fun _ : Unit => shmHandle .created) tr := by
  have hcall : ((.ok .void, .held 1 0 true) : Except SystemError Reply × State Nat) ∈
      Call.lock.perform shmBehaviour (shmHandle .created) 1 0 .abandoned := by decide
  have hne : 1 ≠ 0 := by decide
  have hmade : ∀ _ : Unit, MadeBy (.caller 0) .created (shmHandle .created) :=
    fun _ => shmHandle_madeBy .created
  have hrun := run_call_abandoned rfl (fun _ => shmHandle .created) () () hne hcall
  refine ⟨_, _, hrun, rfl, ?_⟩
  refine (lock_recovers_iff hmade hrun (by simp [abandonTrs, ConsistentSucceeds])).mpr ?_
  intro tr _
  unfold AbandonedOnlyToCreated
  split
  · exact fun _ _ => rfl
  · trivial

/-- With one created and one opened handle, the owner that dies through the first strands the mutex with
the thread that locks through the second: its `Lock` throws and leaves it owning the mutex. -/
theorem lock_stranded_by_opened_handle :
    ∃ trs s, (∀ origin, MadeBy (.caller 0) origin (shmHandle origin)) ∧
      Run (SysStep shmBehaviour shmHandle) (Sys.init : Sys Nat) trs s ∧
      (∀ tr ∈ trs, ConsistentSucceeds tr.act) ∧ s.mtx = .held 1 0 false ∧
      ¬ ∀ tr ∈ trs, LockRecovers shmHandle tr := by
  have hcall : ((.error ⟨EOWNERDEAD, "shm@LockFail: pthread_mutex_lock"⟩, .held 1 0 false) :
      Except SystemError Reply × State Nat) ∈
        Call.lock.perform shmBehaviour (shmHandle .opened) 1 0 .abandoned := by decide
  have hne : 1 ≠ 0 := by decide
  have hrun := run_call_abandoned rfl shmHandle .created .opened hne hcall
  refine ⟨_, _, shmHandle_madeBy, hrun, by simp [abandonTrs, ConsistentSucceeds], rfl, ?_⟩
  intro hall
  have hlast : RobustLock shmHandle 1 0 State.abandoned _ (State.held 1 0 false) :=
    hall _ (List.mem_append_right _ List.mem_cons_self)
  have hsame := hlast.throws _ rfl
  simp at hsame

end AxzlCore

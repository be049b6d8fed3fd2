import AxzlCore.Library.Accounts
import AxzlCore.Mutex.Exclusion

/-!
# When the reports are the truth

A client that trusts the class counts what was reported to it.  This module says when that count is exact,
in every state of a run, for arbitrary calls through arbitrary handles.

* `accounts_kept_iff` — exactly when: the abandoned mutex is met by a recovering `Lock` and by nothing
  else, nobody unlocks an unchecked mutex another thread owns, and no thread dies holding a stalled one.
* `constructed_mutex_accounts` — so a mutex that is constructed with any configuration, and locked and
  unlocked through that handle only, keeps its accounts in every run.
* `lock_stays_available` — from any state reached that way every live thread can get the mutex: the owner
  gives back what was reported to it, and the next `Lock` returns.
-/

set_option autoImplicit false

namespace AxzlCore

open Errno Function Outcomes RobustMutex Runs

variable {T H : Type} [DecidableEq T] {attr : Attr} {handle : H → Mutex}

/-! ## The exact condition -/

/-- The step leaves the accounts exact. -/
def KeepsAccounts (attr : Attr) (handle : H → Mutex) (s : Sys T) : Action T H → Prop
  | .call t _ .unlock _ _ =>
      attr.kind = .normal → attr.robust = false → 0 < s.reported t ∨ ∀ u, s.reported u = 0
  | .call _ h c rcConsistent _ => s.mtx = .abandoned → c.Recovers (handle h) rcConsistent
  | .die t => attr.robust = true ∨ s.reported t = 0

/-- What an acquiring call does to exact accounts. -/
theorem accounted_perform_iff {m : Mutex} {s : Session T} {t : T} {rcConsistent : Rc} {c : Call}
    {r : Except SystemError Reply} {s' : State T} (h : Accounted s) (hc : c ≠ .unlock)
    (hcall : (r, s') ∈ c.perform attr m t rcConsistent s.mtx) :
    Accounted ⟨s', Session.note s.reported t (c.reports r)⟩ ↔
      (s.mtx = .abandoned → c.Recovers m rcConsistent) := by
  rcases perform_cases hc hcall with
    ⟨hacq, hreports⟩ | ⟨hs, hrecovers, hreports, rfl⟩ | ⟨hs, hnot, hreports, b, rfl⟩ |
      ⟨hs, hreports, rfl⟩
  · rw [hreports]
    refine ⟨fun _ habandoned => ?_, fun _ => h.acquires hacq⟩
    -- no OS call takes an abandoned mutex with success
    rw [habandoned] at hacq
    exact absurd hacq.of_abandoned.1 (by decide)
  · rw [hreports]
    exact ⟨fun _ _ => hrecovers, fun _ => h.recovered hs⟩
  · rw [hreports]
    exact ⟨fun h' => absurd h' (h.not_silent hs b), fun hall => absurd (hall hs) hnot⟩
  · rw [hreports]
    exact ⟨fun _ habandoned => absurd habandoned hs, fun _ => h⟩

/-- One step keeps exact accounts exactly under its condition. -/
theorem accounted_step_iff {s s' : Sys T} {a : Action T H} (h : Accounted s.toSession)
    (hstep : SysStep attr handle s a s') :
    Accounted s'.toSession ↔ KeepsAccounts attr handle s a := by
  cases hstep with
  | die halive => exact h.die_iff attr _
  | @call t h' c rcConsistent r m halive hcall =>
      cases c with
      | unlock =>
          obtain ⟨r₀, hmem, rfl⟩ := mem_perform_unlock.mp hcall
          obtain ⟨rc, hunlock, -⟩ := Mutex.unlock_cases hmem
          exact h.unlock_iff hunlock
      | lock => exact accounted_perform_iff h (by simp) hcall
      | tryLock => exact accounted_perform_iff h (by simp) hcall
      | tryLockFor now duration => exact accounted_perform_iff h (by simp) hcall
      | tryLockUntil tp => exact accounted_perform_iff h (by simp) hcall

/-- **Exactly when the reports are the truth.**  Every state of a run has every thread owning exactly what
was reported to it, of a mutex in order, if and only if every step of the run keeps the accounts. -/
theorem accounts_kept_iff {trs : List (Transition (Sys T) (Action T H))} {s : Sys T}
    (hrun : Run (SysStep attr handle) Sys.init trs s) :
    (∀ tr ∈ trs, Accounted tr.post.toSession) ↔
      ∀ tr ∈ trs, KeepsAccounts attr handle tr.pre tr.act :=
  hrun.safe_iff_guarded (fun _ => True) (fun _ _ _ _ _ => trivial)
    (fun _ _ _ _ h hstep => accounted_step_iff h hstep) trivial accounted_init

/-- The last state of a run whose steps keep the accounts. -/
theorem accounted_of_run {trs : List (Transition (Sys T) (Action T H))} {s : Sys T}
    (hrun : Run (SysStep attr handle) Sys.init trs s)
    (hkeeps : ∀ tr ∈ trs, KeepsAccounts attr handle tr.pre tr.act) : Accounted s.toSession := by
  have hkeep : ∀ (s : Sys T) (a : Action T H) (s' : Sys T), Accounted s.toSession →
      KeepsAccounts attr handle s a → SysStep attr handle s a s' → Accounted s'.toSession :=
    fun _ _ _ h hok hstep => (accounted_step_iff h hstep).mpr hok
  exact (hrun.guarded_invariant _ hkeep hkeeps accounted_init).1

/-- A death and a recovering `Lock` keep the accounts; the run of `run_abandon` continued by a `TryLock`
does not. -/
theorem accounts_kept_after_death :
    ∃ (trs trs' : List (Transition (Sys Nat) (Action Nat Origin))) (s s' : Sys Nat),
      Run (SysStep Mutex.shmBehaviour shmHandle) Sys.init trs s ∧
      Run (SysStep Mutex.shmBehaviour shmHandle) Sys.init trs' s' ∧
      (∀ tr ∈ trs, Accounted tr.post.toSession) ∧ ¬ ∀ tr ∈ trs', Accounted tr.post.toSession := by
  have hlock : ((.ok .void, .held 1 0 true) : Except SystemError Reply × State Nat) ∈
      Call.lock.perform Mutex.shmBehaviour (shmHandle .created) 1 0 .abandoned := by decide
  have htry : ((.ok (.bool false), .held 1 0 false) : Except SystemError Reply × State Nat) ∈
      Call.tryLock.perform Mutex.shmBehaviour (shmHandle .created) 1 0 .abandoned := by decide
  have hne : 1 ≠ 0 := by decide
  have hrun := run_call_abandoned rfl shmHandle .created .created hne hlock
  have hrun' := run_call_abandoned rfl shmHandle .created .created hne htry
  refine ⟨_, _, _, _, hrun, hrun', ?_, ?_⟩
  · rw [accounts_kept_iff hrun]
    simp [abandonTrs, KeepsAccounts, Call.Recovers, shmHandle, Sys.init, Mutex.shmBehaviour,
      Mutex.initialised, Mutex.Config.setSharedMem]
  · rw [accounts_kept_iff hrun']
    simp [abandonTrs, KeepsAccounts, Call.Recovers, Sys.abandonedBy]

/-! ## A constructed mutex -/

/-- The disciplined use of a constructed mutex: only `Lock`, and `Unlock` for what was reported; nobody
dies inside a stalled one, and `pthread_mutex_consistent` succeeds. -/
def LocksAndUnlocks (attr : Attr) (s : Sys T) : Action T H → Prop
  | .call _ _ .lock rcConsistent _ => rcConsistent = 0
  | .call t _ .unlock _ _ => 0 < s.reported t
  | .call _ _ _ _ _ => False
  | .die t => attr.robust = true ∨ s.reported t = 0

omit [DecidableEq T] in
/-- Through handles that know the mutex to be robust, disciplined use keeps the accounts. -/
theorem keepsAccounts_of_locksAndUnlocks (hflag : ∀ h, attr.robust = true → (handle h).mRobust = true)
    {s : Sys T} {a : Action T H} (hrobust : s.mtx = .abandoned → attr.robust = true)
    (h : LocksAndUnlocks attr s a) : KeepsAccounts attr handle s a := by
  cases a with
  | die t => exact h
  | call t h' c rcConsistent r =>
      cases c with
      | lock => exact fun habandoned => ⟨rfl, hflag h' (hrobust habandoned), h⟩
      | unlock => exact fun _ _ => .inl h
      | tryLock | tryLockFor _ _ | tryLockUntil _ => exact h.elim

/-- Only a robust mutex is ever abandoned. -/
def AbandonedRobust (attr : Attr) (s : Sys T) : Prop := s.mtx = .abandoned → attr.robust = true

theorem abandonedRobust_step {s s' : Sys T} {a : Action T H} (h : AbandonedRobust attr s)
    (hstep : SysStep attr handle s a s') : AbandonedRobust attr s' := by
  intro habandoned
  by_cases hs : s.mtx = .abandoned
  · exact h hs
  · cases hstep with
    | die halive => exact robust_of_ownerDies hs habandoned
    | @call t h' c rcConsistent r m halive hcall =>
        change m = .abandoned at habandoned
        subst habandoned
        by_cases hc : c = .unlock
        · subst hc
          obtain ⟨r₀, hmem, rfl⟩ := mem_perform_unlock.mp hcall
          obtain ⟨rc, hunlock, -⟩ := Mutex.unlock_cases hmem
          exact absurd (abandoned_of_unlock hunlock) hs
        · exact absurd (abandoned_of_sound (perform_sound hc hcall)) hs

/-- **A constructed mutex keeps its accounts.**  Whatever the configuration it was constructed with, in
every run of any number of threads that lock it and answer each acquisition with at most one `Unlock`,
every thread owns exactly what was reported to it, two threads never own the mutex together, and the mutex
stays usable. -/
theorem constructed_mutex_accounts {os : Mutex.InitResults} {name : String} {log : LogPtr}
    {cfg : Mutex.Config} {l l' : Ledger} {m : Mutex} (hmade : Mutex.construct os name log cfg l = .ok m l')
    {trs : List (Transition (Sys T) (Action T Unit))} {s : Sys T}
    (hrun : Run (SysStep (Mutex.behaviour (Mutex.attrOf cfg)) fun _ => m) Sys.init trs s)
    (hdisc : ∀ tr ∈ trs, LocksAndUnlocks (Mutex.behaviour (Mutex.attrOf cfg)) tr.pre tr.act) :
    Accounted s.toSession ∧ ∀ t u, 0 < s.mtx.holds t → 0 < s.mtx.holds u → t = u := by
  obtain ⟨rfl, -⟩ := Mutex.construct_ok hmade
  have hrobust := hrun.invariant (fun _ _ _ h hstep => abandonedRobust_step h hstep)
    (by simp [AbandonedRobust, Sys.init])
  have haccounted := accounted_of_run hrun fun tr htr =>
    keepsAccounts_of_locksAndUnlocks (fun _ h => h) (hrobust.2 tr htr).1 (hdisc tr htr)
  refine ⟨haccounted, fun t u ht hu => ?_⟩
  rw [← haccounted.eq_holds] at ht hu
  obtain ⟨n, hheld, -⟩ := haccounted.eq_held ht
  by_contra hne
  have hzero : s.reported u = 0 := haccounted.reported_of_ne hheld (Ne.symm hne)
  omega

/-- A recursive mutex, locked twice by one thread. -/
theorem constructed_mutex_accounts_recursive :
    ∃ (m : Mutex) (l' : Ledger) (trs : List (Transition (Sys Nat) (Action Nat Unit))) (s : Sys Nat),
      Mutex.construct (fun _ => 0) "m" none (Mutex.Config.setRecursive {}) Ledger.empty = .ok m l' ∧
      Run (SysStep (Mutex.behaviour (Mutex.attrOf (Mutex.Config.setRecursive {}))) fun _ => m)
        Sys.init trs s ∧ s.mtx = .held 0 1 true ∧ Accounted s.toSession := by
  have hmade : Mutex.construct (fun _ => 0) "m" none (Mutex.Config.setRecursive {}) Ledger.empty =
      .ok _ _ := rfl
  have hfirst : ((.ok .void, .held 0 0 true) : Except SystemError Reply × State Nat) ∈
      Call.lock.perform (Mutex.behaviour (Mutex.attrOf (Mutex.Config.setRecursive {})))
        ((Mutex.named "m" none (.heap 0)).initialised (Mutex.Config.setRecursive {})) 0 0 .free := by
    decide
  have hagain : ((.ok .void, .held 0 1 true) : Except SystemError Reply × State Nat) ∈
      Call.lock.perform (Mutex.behaviour (Mutex.attrOf (Mutex.Config.setRecursive {})))
        ((Mutex.named "m" none (.heap 0)).initialised (Mutex.Config.setRecursive {})) 0 0
        (.held 0 0 true) := by
    decide
  have hstep : SysStep _ (fun _ : Unit => _) Sys.init (.call 0 () .lock 0 (.ok .void)) _ :=
    .call rfl hfirst
  have hrun := (Run.single hstep).append (.single (.call (h := ()) rfl hagain))
  refine ⟨_, _, _, _, hmade, hrun, rfl, ?_⟩
  exact (constructed_mutex_accounts hmade hrun (by simp [LocksAndUnlocks])).1

/-! ## Availability -/

/-- An owner's `Unlock` returns, and gives one level back. -/
theorem unlock_of_holds {m : Mutex} {t : T} {rcConsistent : Rc} {s : State T} (h : 0 < s.holds t) :
    (.ok .void, release s) ∈ Call.unlock.perform attr m t rcConsistent s := by
  refine mem_perform_unlock.mpr ⟨.ok (), ?_, rfl⟩
  unfold Mutex.unlock
  simp only [pthreadMutexUnlock, Comp.mem_ofList_bind]
  refine ⟨0, release s, by simp [RobustMutex.unlock, h], ?_⟩
  rw [if_neg (by simp)]
  exact Comp.mem_pure.mpr ⟨rfl, rfl⟩

/-- The step answers, through the handle `h`, an acquisition that was reported to the caller. -/
def AnswersReport (h : H) (tr : Transition (Sys T) (Action T H)) : Prop :=
  ∃ u, tr.act = .call u h .unlock 0 (.ok .void) ∧ 0 < tr.pre.reported u

/-- The owner gives back one level, which was reported to it. -/
theorem unlock_one (attr : Attr) (handle : H → Mutex) (h : H) {n : Nat} {u : T} {s : Sys T}
    (haccounted : Accounted s.toSession) (halive : s.alive u = true)
    (hheld : s.mtx = .held u n true) :
    ∃ s', SysStep attr handle s (.call u h .unlock 0 (.ok .void)) s' ∧ 0 < s.reported u ∧
      s'.mtx = release (.held u n true) ∧ s'.alive = s.alive ∧ Accounted s'.toSession := by
  have hreported : 0 < s.reported u := by
    rw [haccounted.eq_holds u, hheld, holds_held_self]
    exact Nat.succ_pos n
  refine ⟨_, .call halive (unlock_of_holds (by rw [hheld]; simp)), hreported, ?_, rfl,
    haccounted.release hheld⟩
  show release s.mtx = _
  rw [hheld]

/-- The owner can give back all that was reported to it, and frees the mutex with the last level. -/
theorem run_unlock_all (h : H) {n : Nat} {u : T} {s : Sys T} (haccounted : Accounted s.toSession)
    (halive : s.alive u = true) (hheld : s.mtx = .held u n true) :
    ∃ trs s', Run (SysStep attr handle) s trs s' ∧ (∀ tr ∈ trs, AnswersReport h tr) ∧
      s'.mtx = .free ∧ s'.alive = s.alive ∧ Accounted s'.toSession := by
  induction n generalizing s with
  | zero =>
      obtain ⟨s', hstep, hreported, hfree, hsame, hacc⟩ :=
        unlock_one attr handle h haccounted halive hheld
      refine ⟨_, s', .single hstep, fun tr htr => ?_, hfree, hsame, hacc⟩
      rw [List.mem_singleton.mp htr]
      exact ⟨u, rfl, hreported⟩
  | succ n ih =>
      obtain ⟨s₁, hstep, hreported, hheld₁, hsame₁, hacc₁⟩ :=
        unlock_one attr handle h haccounted halive hheld
      obtain ⟨trs, s', hrun, hanswers, hfree, hsame, hacc⟩ :=
        ih hacc₁ (by rw [hsame₁]; exact halive) hheld₁
      refine ⟨_, s', .cons hstep hrun, fun tr htr => ?_, hfree, hsame.trans hsame₁, hacc⟩
      rcases List.mem_cons.mp htr with rfl | hmem
      · exact ⟨u, rfl, hreported⟩
      · exact hanswers tr hmem

/-- Whoever calls `Lock` on a mutex nobody owns gets it, and is told so. -/
theorem lock_of_unowned {h : H} {t : T} {s : Sys T} (haccounted : Accounted s.toSession)
    (halive : s.alive t = true)
    (hunowned : s.mtx = .free ∨ s.mtx = .abandoned ∧ (handle h).mRobust = true) :
    ∃ s', SysStep attr handle s (.call t h .lock 0 (.ok .void)) s' ∧ s'.mtx = .held t 0 true ∧
      Accounted s'.toSession := by
  have hcall : (.ok .void, .held t 0 true) ∈ Call.lock.perform attr (handle h) t 0 s.mtx := by
    rcases hunowned with hfree | ⟨habandoned, hrobust⟩
    · rw [hfree]
      exact lock_of_acquires .fresh
    · rw [habandoned]
      exact mem_perform_lock.mpr ⟨_, Mutex.lock_abandoned_of_robust hrobust, rfl⟩
  refine ⟨_, .call halive hcall, rfl, ?_⟩
  refine (accounted_perform_iff haccounted (by simp) hcall).mpr fun habandoned => ?_
  rcases hunowned with hfree | ⟨-, hrobust⟩
  · rw [hfree] at habandoned
    cases habandoned
  · exact ⟨rfl, hrobust, rfl⟩

/-- **The mutex stays available.**  From every state that a run keeping its accounts reaches, and for every
live thread, some owner's `Unlock` calls for what was reported to it are all that stands before a `Lock` of
that thread that returns normally with the mutex owned and consistent. -/
theorem lock_stays_available {trs : List (Transition (Sys T) (Action T H))} {s : Sys T}
    (hrun : Run (SysStep attr handle) Sys.init trs s)
    (hkeeps : ∀ tr ∈ trs, KeepsAccounts attr handle tr.pre tr.act) {t : T} (halive : s.alive t = true)
    {h : H} (hflag : attr.robust = true → (handle h).mRobust = true) :
    ∃ trs' s₁ s₂, Run (SysStep attr handle) s trs' s₁ ∧ (∀ tr ∈ trs', AnswersReport h tr) ∧
      SysStep attr handle s₁ (.call t h .lock 0 (.ok .void)) s₂ ∧ s₂.mtx = .held t 0 true ∧
      Accounted s₂.toSession := by
  have haccounted := accounted_of_run hrun hkeeps
  have hrobust : AbandonedRobust attr s :=
    (hrun.invariant (fun _ _ _ h hstep => abandonedRobust_step h hstep)
      (by simp [AbandonedRobust, Sys.init])).1
  cases hmtx : s.mtx with
  | free =>
      obtain ⟨s₂, hstep, hs₂⟩ := lock_of_unowned haccounted halive (.inl hmtx)
      exact ⟨[], s, s₂, .nil s, by simp, hstep, hs₂⟩
  | abandoned =>
      obtain ⟨s₂, hstep, hs₂⟩ := lock_of_unowned haccounted halive (.inr ⟨hmtx, hflag (hrobust hmtx)⟩)
      exact ⟨[], s, s₂, .nil s, by simp, hstep, hs₂⟩
  | notRecoverable => exact absurd hmtx haccounted.recoverable
  | held u n c =>
      have hc : c = true := haccounted.consistent u n c hmtx
      subst hc
      -- the owner has reports, so it is alive
      have hreports : ReportsAlive s :=
        (hrun.invariant (fun _ _ _ h hstep => reportsAlive_step h hstep)
          (by simp [ReportsAlive, Sys.init])).1
      have howner : s.alive u = true := by
        apply hreports
        rw [haccounted.eq_holds u, hmtx, holds_held_self]
        exact Nat.succ_pos n
      obtain ⟨trs', s₁, hrun', hanswers, hfree, hsame, hacc⟩ := run_unlock_all h haccounted howner hmtx
      obtain ⟨s₂, hstep, hs₂⟩ := lock_of_unowned hacc (by rw [hsame]; exact halive) (.inl hfree)
      exact ⟨trs', s₁, s₂, hrun', hanswers, hstep, hs₂⟩

/-- The owner is dead: the next thread gets the mutex. -/
theorem lock_stays_available_after_death :
    ∃ trs' s₁ s₂, Run (SysStep Mutex.shmBehaviour fun _ : Unit => shmHandle .created)
        (Sys.abandonedBy 0 : Sys Nat) trs' s₁ ∧
      SysStep Mutex.shmBehaviour (fun _ : Unit => shmHandle .created) s₁
        (.call 1 () .lock 0 (.ok .void)) s₂ ∧ s₂.mtx = .held 1 0 true := by
  have hrun₀ : Run (SysStep Mutex.shmBehaviour fun _ : Unit => shmHandle .created) Sys.init
      (abandonTrs 0 ()) (Sys.abandonedBy 0) := run_abandon rfl _ 0 ()
  obtain ⟨trs', s₁, s₂, hrun, -, hstep, hs₂, -⟩ :=
    lock_stays_available hrun₀ (by simp [abandonTrs, KeepsAccounts, Sys.init, Mutex.shmBehaviour])
      (t := 1) rfl (h := ()) fun _ => rfl
  exact ⟨trs', s₁, s₂, hrun, hstep, hs₂⟩

end AxzlCore

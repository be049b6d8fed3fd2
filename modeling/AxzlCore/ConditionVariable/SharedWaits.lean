import AxzlCore.ConditionVariable.Waits
import AxzlCore.Mutex.Handles
import AxzlCore.Mutex.Recoverability

/-!
# Condition waits on a shared mutex

The system of `SharedMutex`, with wait operations: a thread that holds the mutex through a scoped lock may
enter any form of wait, which gives the mutex back while it blocks and takes it again when it wakes.  A
scoped lock unlocks once for every acquisition reported to it, also when an exception unwinds.  Threads
notify, wake with or without a notification, and die at any point.

* `WakeConsistent` — a wait that re-acquired the mutex has it consistent.
* `WakesSound` — a waiter wakes to a mutex that nobody abandoned, and that it does not itself hold
  inconsistent already.
* `waits_survive_iff` — the waits of a run leave the mutex consistent, and the mutex never becomes not
  recoverable, exactly when all its wakes are of this kind.  On an abandoned mutex every form of wait
  throws and leaves the mutex inconsistent to the scoped lock.
-/

set_option autoImplicit false

namespace AxzlCore

open Errno Function Outcomes RobustMutex Runs

/-- Where a thread is in a wait operation, if it is in one: at the head of its loop, holding the mutex, or
in the OS wait. -/
inductive Phase
  | idle
  | holding (cv : ConditionVariable) (c : WaitCall)
  | blocked (cv : ConditionVariable) (c : WaitCall)

/-- The phase after a progress of the wait operation `c`. -/
def Progress.phase (cv : ConditionVariable) (c : WaitCall) : Progress → Phase
  | .ends _ => .idle
  | .goesOn => .holding cv c

/-- The shared mutex and the wait operations under way. -/
structure WaitSys (T : Type) extends Sys T where
  phase : T → Phase

/-- A fresh mutex and no waits. -/
def WaitSys.init {T : Type} : WaitSys T := ⟨Sys.init, fun _ => .idle⟩

/-- One step of the system: a call on the mutex, the parts of a wait operation, a notification, a death. -/
inductive WaitAction (T H : Type)
  | call (t : T) (h : H) (c : Call) (rcConsistent : Rc) (result : Except SystemError Reply)
  | enter (t : T) (cv : ConditionVariable) (c : WaitCall)
  | check (t : T) (pred : Bool)
  | block (t : T) (pred : Bool)
  | refuse (t : T) (pred : Bool) (rc : Rc)
  | wake (t : T) (rc : Rc)
  | notify (t : T)
  | die (t : T)

variable {T H : Type} [DecidableEq T]

inductive WaitStep (attr : Attr) (handle : H → Mutex) :
    WaitSys T → WaitAction T H → WaitSys T → Prop
  /-- A call outside of a wait; a scoped lock unlocks only what it acquired. -/
  | call {s : WaitSys T} {s₁ : Sys T} {t : T} {h : H} {c : Call} {rcConsistent : Rc}
      {r : Except SystemError Reply} (hphase : s.phase t = .idle)
      (hscoped : UnlocksReported s.toSys (.call t h c rcConsistent r))
      (hcall : SysStep attr handle s.toSys (.call t h c rcConsistent r) s₁) :
      WaitStep attr handle s (.call t h c rcConsistent r) ⟨s₁, s.phase⟩
  /-- A thread with a scoped lock enters a wait. -/
  | enter {s : WaitSys T} {t : T} {cv : ConditionVariable} {c : WaitCall} (halive : s.alive t = true)
      (hphase : s.phase t = .idle) (hscoped : 0 < s.reported t) :
      WaitStep attr handle s (.enter t cv c) ⟨s.toSys, update s.phase t (.holding cv c)⟩
  /-- The predicate is true: the wait ends without blocking. -/
  | check {s : WaitSys T} {t : T} {cv : ConditionVariable} {c : WaitCall} {pred : Bool}
      {r : Except SystemError WaitReply} (halive : s.alive t = true)
      (hphase : s.phase t = .holding cv c) (hhead : c.loopHead pred = .ends r) :
      WaitStep attr handle s (.check t pred) ⟨s.toSys, update s.phase t .idle⟩
  /-- The OS wait gives one level of the mutex back and blocks. -/
  | block {s : WaitSys T} {t : T} {cv : ConditionVariable} {c : WaitCall} {pred : Bool} {rc : Rc}
      {m : State T} (halive : s.alive t = true) (hphase : s.phase t = .holding cv c)
      (hhead : c.loopHead pred = .goesOn) (hunlock : (rc, m) ∈ RobustMutex.unlock attr t s.mtx) :
      WaitStep attr handle s (.block t pred)
        ⟨⟨⟨m, update s.reported t (s.reported t - 1)⟩, s.alive⟩, update s.phase t (.blocked cv c)⟩
  /-- The OS wait fails before it gives the mutex back. -/
  | refuse {s : WaitSys T} {t : T} {cv : ConditionVariable} {c : WaitCall} {pred : Bool} {rc : Rc}
      (halive : s.alive t = true) (hphase : s.phase t = .holding cv c)
      (hhead : c.loopHead pred = .goesOn) (hrc : rc ≠ 0 ∧ rc ≠ EOWNERDEAD) :
      WaitStep attr handle s (.refuse t pred rc)
        ⟨s.toSys, update s.phase t ((c.resume cv rc).phase cv c)⟩
  /-- The OS wait takes the mutex again, as far as it can, and returns; the scoped lock takes the mutex
  for its own again. -/
  | wake {s : WaitSys T} {t : T} {cv : ConditionVariable} {c : WaitCall} {rc : Rc} {m : State T}
      (halive : s.alive t = true) (hphase : s.phase t = .blocked cv c)
      (hmtx : (rc, m) ∈ reacquire c.osWait.returns t s.mtx) :
      WaitStep attr handle s (.wake t rc)
        ⟨⟨⟨m, update s.reported t (s.reported t + 1)⟩, s.alive⟩,
          update s.phase t ((c.resume cv rc).phase cv c)⟩
  /-- A notification does nothing to the mutex, and a waiter may wake without one. -/
  | notify {s : WaitSys T} {t : T} (halive : s.alive t = true) : WaitStep attr handle s (.notify t) s
  | die {s : WaitSys T} {s₁ : Sys T} {t : T} (hdie : SysStep attr handle s.toSys (.die t) s₁) :
      WaitStep attr handle s (.die t) ⟨s₁, update s.phase t .idle⟩

/-- A wait that re-acquired the mutex has it consistent, before it returns, throws or goes on. -/
def WakeConsistent (tr : Transition (WaitSys T) (WaitAction T H)) : Prop :=
  match tr.act with
  | .wake t _ => ∀ n c, tr.post.mtx = .held t n c → c = true
  | _ => True

/-- A waiter wakes neither to an abandoned mutex nor to one it holds inconsistent already. -/
def WakesSound (s : WaitSys T) : WaitAction T H → Prop
  | .wake t _ => s.mtx ≠ .abandoned ∧ ∀ n, s.mtx ≠ .held t n false
  | _ => True

/-! ## One step -/

/-- A thread at the head of a wait has the report of its scoped lock. -/
def HoldingReported (s : WaitSys T) : Prop := ∀ t cv c, s.phase t = .holding cv c → 0 < s.reported t

omit [DecidableEq T] in
theorem holdingReported_init : HoldingReported (WaitSys.init : WaitSys T) := by
  intro t cv c hphase
  cases hphase

theorem holdingReported_step {attr : Attr} {handle : H → Mutex} {s s' : WaitSys T}
    {a : WaitAction T H} (hinv : HoldingReported s) (hstep : WaitStep attr handle s a s') :
    HoldingReported s' := by
  intro u cv' c' hu
  -- a thread other than the one that moves keeps its phase and its reports
  have hother : ∀ {t : T} {p : Phase}, update s.phase t p u = .holding cv' c' → u ≠ t →
      0 < s.reported u := by
    intro t p hphase hne
    rw [update_of_ne hne] at hphase
    exact hinv u cv' c' hphase
  cases hstep with
  | @call s₁ t h c rcConsistent r hphase hscoped hcall =>
      have hne : u ≠ t := by
        rintro rfl
        rw [show s.phase u = .holding cv' c' from hu] at hphase
        cases hphase
      cases hcall with
      | call halive hmem =>
          show 0 < c.account s.reported t r u
          rw [account_of_ne c s.reported r hne]
          exact hinv u cv' c' hu
  | @enter t cv c halive hphase hscoped =>
      by_cases hut : u = t
      · rw [hut]
        exact hscoped
      · exact hother hu hut
  | @check t cv c pred r halive hphase hhead =>
      by_cases hut : u = t
      · rw [hut]
        exact hinv t cv c hphase
      · exact hother hu hut
  | @block t cv c pred rc m halive hphase hhead hunlock =>
      have hne : u ≠ t := by
        rintro rfl
        change update s.phase u _ u = _ at hu
        rw [update_self] at hu
        cases hu
      show 0 < update s.reported t _ u
      rw [update_of_ne hne]
      exact hother hu hne
  | @refuse t cv c pred rc halive hphase hhead hrc =>
      by_cases hut : u = t
      · rw [hut]
        exact hinv t cv c hphase
      · exact hother hu hut
  | @wake t cv c rc m halive hphase hmtx =>
      show 0 < update s.reported t _ u
      by_cases hut : u = t
      · rw [hut, update_self]
        omega
      · rw [update_of_ne hut]
        exact hother hu hut
  | notify halive => exact hinv u cv' c' hu
  | @die s₁ t hdie =>
      have hne : u ≠ t := by
        rintro rfl
        change update s.phase u _ u = _ at hu
        rw [update_self] at hu
        cases hu
      cases hdie with
      | die halive =>
          show 0 < update s.reported t 0 u
          rw [update_of_ne hne]
          exact hother hu hne

/-- A wake to a sound mutex is a sound acquisition, and reported. -/
theorem sound_of_reacquire {codes : List Rc} {t : T} {s s' : State T} {rc : Rc}
    (hmem : (rc, s') ∈ reacquire codes t s) (habandoned : s ≠ .abandoned)
    (hrecoverable : s ≠ .notRecoverable) : Sound t s true s' := by
  rcases reacquire_cases hmem with ⟨rfl, rfl⟩ | ⟨n, c, rfl, rfl⟩ | ⟨rfl, -⟩ | ⟨rfl, -⟩
  · exact .fresh
  · exact .again
  · exact absurd rfl habandoned
  · exact absurd rfl hrecoverable

/-- Steps whose wakes are sound follow the reporting discipline. -/
theorem session_waitStep {attr : Attr} {handle : H → Mutex} {s s' : WaitSys T} {a : WaitAction T H}
    (hinv : HoldingReported s) (hrecoverable : s.mtx ≠ .notRecoverable) (hok : WakesSound s a)
    (hstep : WaitStep attr handle s a s') :
    Relation.ReflTransGen (SessionStep attr) s.toSession s'.toSession := by
  cases hstep with
  | call hphase hscoped hcall => exact .single (session_step hscoped hcall)
  | enter halive hphase hscoped => exact .refl
  | check halive hphase hhead => exact .refl
  | @block t cv c pred rc m halive hphase hhead hunlock =>
      exact .single (.release (hinv t cv c hphase) hunlock)
  | refuse halive hphase hhead hrc => exact .refl
  | wake halive hphase hmtx =>
      have hsound := sound_of_reacquire hmtx hok.1 hrecoverable
      exact .single (.acquire hsound)
  | notify halive => exact .refl
  | die hdie =>
      cases hdie with
      | die halive => exact .single (.die _)

/-- What the waits of a run rely on, kept by every step whose wakes are sound. -/
structure WaitsBacked (s : WaitSys T) : Prop where
  holding : HoldingReported s
  backed : Backed s.toSession

theorem waitsBacked_step {attr : Attr} {handle : H → Mutex} {s s' : WaitSys T} {a : WaitAction T H}
    (hinv : WaitsBacked s) (hok : WakesSound s a) (hstep : WaitStep attr handle s a s') :
    WaitsBacked s' where
  holding := holdingReported_step hinv.holding hstep
  backed := backed_of_steps hinv.backed
    (session_waitStep hinv.holding hinv.backed.recoverable hok hstep)

/-- A wake to a mutex that is recoverable leaves it consistent exactly when it found it sound. -/
theorem wakeConsistent_iff {codes : List Rc} {t : T} {s s' : State T} {rc : Rc}
    (hmem : (rc, s') ∈ reacquire codes t s) :
    (∀ n c, s' = .held t n c → c = true) ↔ s ≠ .abandoned ∧ ∀ n, s ≠ .held t n false := by
  rcases reacquire_cases hmem with
    ⟨rfl, rfl⟩ | ⟨n, c, rfl, rfl⟩ | ⟨rfl, -, rfl⟩ | ⟨rfl, rfl⟩
  · simp
  · simp
  · simp
  · simp

/-! ## Runs -/

/-- **Exactly when condition waits survive a dead owner.**  In a run over any mutex, handles and condition
variables, every wait that re-acquires the mutex has it consistent, and the mutex is never not
recoverable, if and only if every wake finds the mutex neither abandoned nor held inconsistent by the
waiter itself. -/
theorem waits_survive_iff {attr : Attr} {handle : H → Mutex}
    {trs : List (Transition (WaitSys T) (WaitAction T H))} {s : WaitSys T}
    (hrun : Run (WaitStep attr handle) WaitSys.init trs s) :
    (∀ tr ∈ trs, WakeConsistent tr ∧ tr.post.mtx ≠ .notRecoverable) ↔
      ∀ tr ∈ trs, WakesSound tr.pre tr.act := by
  have hiff : (∀ tr ∈ trs, WakeConsistent tr) ↔ ∀ tr ∈ trs, WakesSound tr.pre tr.act := by
    refine hrun.forall_iff fun tr _ hstep => ?_
    obtain ⟨pre, act, post⟩ := tr
    change WaitStep attr handle pre act post at hstep
    cases hstep with
    | call | enter | check | block | refuse | notify | die => exact Iff.rfl
    | wake halive hphase hmtx => exact wakeConsistent_iff hmtx
  constructor
  · intro h
    exact hiff.mp fun tr htr => (h tr htr).1
  · -- sound wakes keep the reports backed, and a backed mutex is recoverable
    intro hok tr htr
    refine ⟨hiff.mpr hok tr htr, ?_⟩
    have hall := hrun.guarded_invariant WakesSound
      (fun _ _ _ hinv hsound hstep => waitsBacked_step hinv hsound hstep) hok
      ⟨holdingReported_init, backed_init⟩
    exact (hall.2 tr htr).2.backed.recoverable

/-! ## A waiter and a notifier -/

/-- A thread locks the fresh mutex and blocks in a wait; nobody holds the mutex then. -/
theorem run_block (attr : Attr) (handle : H → Mutex) (t : T) (h : H) (cv : ConditionVariable)
    {c : WaitCall} (hhead : c.loopHead false = .goesOn) :
    ∃ trs s, Run (WaitStep attr handle) WaitSys.init trs s ∧
      (∀ tr ∈ trs, WakesSound tr.pre tr.act) ∧ s.mtx = .free ∧ s.phase t = .blocked cv c ∧
      (∀ u, u ≠ t → s.phase u = .idle) ∧ ∀ u, s.alive u = true := by
  have hlock : (.ok .void, .held t 0 true) ∈
      Call.lock.perform attr (handle h) t 0 (.free : State T) := lock_of_acquires .fresh
  have hreported : 0 < Session.note (fun _ => 0) t true t := by simp [note_self]
  have hunlock : (0, .free) ∈ RobustMutex.unlock attr t (.held t 0 true) := by
    simp [RobustMutex.unlock, release]
  have hphase : update (fun _ => Phase.idle) t (.holding cv c) t = .holding cv c := update_self _ _ _
  have hrun := Run.cons (WaitStep.call (s := WaitSys.init) (c := .lock) rfl trivial (.call rfl hlock))
    (.cons (.enter rfl rfl hreported)
      (.single (.block rfl hphase hhead hunlock)))
  refine ⟨_, _, hrun, fun tr htr => ?_, rfl, update_self _ _ _, fun u hu => ?_, fun u => rfl⟩
  · simp only [List.mem_cons, List.not_mem_nil, or_false] at htr
    rcases htr with rfl | rfl | rfl
    · trivial
    · trivial
    · trivial
  · show update (update (fun _ => Phase.idle) t _) t _ u = .idle
    rw [update_of_ne hu, update_of_ne hu]

/-- A wait with a deadline that ends at its deadline. -/
theorem waits_survive_timeout :
    ∃ trs s, Run (WaitStep Mutex.shmBehaviour shmHandle) (WaitSys.init : WaitSys Nat) trs s ∧
      s.mtx = .held 1 0 true ∧ ∀ tr ∈ trs, WakeConsistent tr ∧ tr.post.mtx ≠ .notRecoverable := by
  obtain ⟨trs, s, hblock, hsound, hmtx, hphase, -, halive⟩ :=
    run_block Mutex.shmBehaviour shmHandle 1 .opened (ConditionVariable.named "cv" none (.caller 1))
      (c := .waitUntil (steadyNow 0)) rfl
  have hwake : (ETIMEDOUT, .held 1 0 true) ∈
      reacquire (WaitCall.waitUntil (steadyNow 0)).osWait.returns 1 s.mtx := by
    rw [hmtx]
    decide
  have hrun := hblock.append (.single (.wake (halive 1) hphase hwake))
  refine ⟨_, _, hrun, rfl, (waits_survive_iff hrun).mpr fun tr htr => ?_⟩
  rcases List.mem_append.mp htr with hmem | hlast
  · exact hsound tr hmem
  · rw [List.mem_singleton.mp hlast]
    show s.mtx ≠ .abandoned ∧ ∀ n, s.mtx ≠ .held 1 n false
    rw [hmtx]
    simp

/-- A notifier locks the free mutex, notifies and dies before it unlocks. -/
theorem run_notifier_dies {attr : Attr} (hrobust : attr.robust = true) (handle : H → Mutex)
    {s : WaitSys T} {u : T} (h : H) (hmtx : s.mtx = .free) (hphase : s.phase u = .idle)
    (halive : s.alive u = true) :
    ∃ trs s', Run (WaitStep attr handle) s trs s' ∧ s'.mtx = .abandoned ∧
      ∀ t, t ≠ u → s'.phase t = s.phase t ∧ s'.alive t = s.alive t := by
  have hlock : (.ok .void, .held u 0 true) ∈ Call.lock.perform attr (handle h) u 0 s.mtx := by
    rw [hmtx]
    exact lock_of_acquires .fresh
  have hrun := Run.cons (WaitStep.call (s := s) (c := .lock) hphase trivial (.call halive hlock))
    (.cons (.notify (t := u) halive) (.single (.die (.die (t := u) halive))))
  refine ⟨_, _, hrun, ?_, fun t ht => ⟨update_of_ne ht _ _, update_of_ne ht _ _⟩⟩
  show ownerDies attr u (.held u 0 true) = .abandoned
  simp [ownerDies, hrobust]

/-- **No form of wait recovers.**  Whatever the form, a waiter that wakes to an abandoned mutex throws, and
the unlock of its scoped lock makes the mutex not recoverable. -/
theorem run_wake_abandoned {attr : Attr} (handle : H → Mutex) {s : WaitSys T} {t : T} (h : H)
    {cv : ConditionVariable} {c : WaitCall} (hmtx : s.mtx = .abandoned)
    (hphase : s.phase t = .blocked cv c) (halive : s.alive t = true) :
    ∃ trs s', Run (WaitStep attr handle) s trs s' ∧ s'.mtx = .notRecoverable ∧
      ∃ tr ∈ trs, tr.post.mtx = .notRecoverable := by
  have hwake : (EOWNERDEAD, .held t 0 false) ∈ reacquire c.osWait.returns t s.mtx := by
    rw [hmtx]
    simp [reacquire]
  have hunlock : (.ok .void, .notRecoverable) ∈
      Call.unlock.perform attr (handle h) t 0 (.held t 0 false) := by
    refine mem_perform_unlock.mpr ⟨.ok (), ?_, rfl⟩
    unfold Mutex.unlock
    simp only [pthreadMutexUnlock, Comp.mem_ofList_bind]
    refine ⟨0, .notRecoverable, by simp [RobustMutex.unlock, release], ?_⟩
    rw [if_neg (by simp)]
    exact Comp.mem_pure.mpr ⟨rfl, rfl⟩
  have hidle : (c.resume cv EOWNERDEAD).phase cv c = .idle := by
    obtain ⟨e, hresume, -⟩ := c.resume_ownerDead cv
    rw [hresume]
    rfl
  have hstep : WaitStep attr handle s (.wake t EOWNERDEAD) _ := .wake halive hphase hwake
  rw [hidle] at hstep
  have hreported : 0 < update s.reported t (s.reported t + 1) t := by simp
  have hrun := Run.cons hstep
    (.single (.call (c := .unlock) (update_self _ _ _) hreported (.call halive hunlock)))
  exact ⟨_, _, hrun, rfl, _, List.mem_cons_of_mem _ List.mem_cons_self, rfl⟩

/-- A notifier dies between its notification and its unlock: the waiter's `WaitUntil` throws, its scoped
lock unlocks the inconsistent mutex, and nobody can use the mutex any more. -/
theorem wait_after_dead_notifier :
    ∃ trs s, Run (WaitStep Mutex.shmBehaviour shmHandle) (WaitSys.init : WaitSys Nat) trs s ∧
      s.mtx = .notRecoverable ∧
      ¬ ∀ tr ∈ trs, WakeConsistent tr ∧ tr.post.mtx ≠ .notRecoverable := by
  obtain ⟨trs₁, s₁, hblock, -, hmtx₁, hphase₁, hidle, halive₁⟩ :=
    run_block Mutex.shmBehaviour shmHandle 1 .created (ConditionVariable.named "cv" none (.caller 1))
      (c := .waitUntil (steadyNow 0)) rfl
  have hrobust : Mutex.shmBehaviour.robust = true := rfl
  obtain ⟨trs₂, s₂, hdies, hmtx₂, hframe⟩ :=
    run_notifier_dies hrobust shmHandle .created hmtx₁ (hidle 0 (by decide)) (halive₁ 0)
  obtain ⟨hphase₂, halive₂⟩ := hframe 1 (by decide)
  obtain ⟨trs₃, s₃, hwake, hmtx₃, tr, htr, hpost⟩ :=
    run_wake_abandoned shmHandle .created hmtx₂ (hphase₂.trans hphase₁) (halive₂.trans (halive₁ 1))
  refine ⟨_, s₃, (hblock.append hdies).append hwake, hmtx₃, fun hall => ?_⟩
  exact (hall tr (List.mem_append_right _ htr)).2 hpost

end AxzlCore

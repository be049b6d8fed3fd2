import AxzlCore.ConditionVariable.PredicateWaits
import AxzlCore.ConditionVariable.SharedWaits
import AxzlCore.Library.Histories

/-!
# Notifications and predicates over shared state

The system of `SharedWaits` with the state the mutex protects, and with notifications that reach somebody.
The loop of a wait is cut finer here: the predicate is evaluated in one step and the OS wait is entered in
another, and the other threads may move in between.  Shared state is written only by threads that were
reported the mutex.  Of the condition variable POSIX is assumed: a signal unblocks at least one of the threads
blocked there, of which a thread that died is none.

* `NotifySys.toWaitSys`, `backed_notifyStep` — the system refines the one of `SharedWaits`.
* `protected_data` — while a thread keeps a report, nobody but the thread itself changes the shared state.
* `no_lost_wakeup` — a waiter whose predicate is true stays asleep only since a write that turned it true,
  after which there was no `NotifyAll`, and every `NotifyOne` went to another waiter.
-/

set_option autoImplicit false

namespace AxzlCore

open Errno Function Outcomes RobustMutex Runs

/-- Where a thread is in a wait operation with the predicate `pred`: at the head of its loop, on its way to
the OS wait after a false predicate, or asleep in the OS wait, notified or not. -/
inductive Stage (σ : Type)
  | idle
  | head (cv : ConditionVariable) (c : WaitCall) (pred : σ → Bool)
  | waiting (cv : ConditionVariable) (c : WaitCall) (pred : σ → Bool)
  | asleep (cv : ConditionVariable) (c : WaitCall) (pred : σ → Bool) (notified : Bool)

variable {T H σ : Type}

/-- The stage as `SharedWaits` sees it. -/
def Stage.phase : Stage σ → Phase
  | .idle => .idle
  | .head cv c _ => .holding cv c
  | .waiting cv c _ => .holding cv c
  | .asleep cv c _ _ => .blocked cv c

/-- The stage after the predicate was evaluated. -/
def Progress.evaluated (cv : ConditionVariable) (c : WaitCall) (pred : σ → Bool) : Progress → Stage σ
  | .ends _ => .idle
  | .goesOn => .waiting cv c pred

/-- The stage after the OS wait returned. -/
def Progress.resumed (cv : ConditionVariable) (c : WaitCall) (pred : σ → Bool) : Progress → Stage σ
  | .ends _ => .idle
  | .goesOn => .head cv c pred

/-- The effect of a signal on a thread: it wakes a thread asleep on the condition variable at `mCv`. -/
def Stage.signal (mCv : Addr) : Stage σ → Stage σ
  | .asleep cv c pred notified => .asleep cv c pred (notified || decide (cv.mCv = mCv))
  | stage => stage

/-- The shared mutex, the state it protects, and the wait operations under way. -/
structure NotifySys (T σ : Type) extends Sys T where
  data : σ
  stage : T → Stage σ

def NotifySys.init (data : σ) : NotifySys T σ := ⟨Sys.init, data, fun _ => .idle⟩

/-- The system without the shared state and the notifications. -/
def NotifySys.toWaitSys (s : NotifySys T σ) : WaitSys T := ⟨s.toSys, fun t => (s.stage t).phase⟩

/-- The thread sleeps on the condition variable at `mCv`, and nobody has notified it. -/
def NotifySys.Sleeps (s : NotifySys T σ) (t : T) (mCv : Addr) : Prop :=
  ∃ cv c pred, s.stage t = .asleep cv c pred false ∧ cv.mCv = mCv

/-- `NotifyAll`: a broadcast wakes every thread asleep on the condition variable. -/
def ConditionVariable.notifyAll (cv : ConditionVariable) (stage : T → Stage σ) : T → Stage σ :=
  fun u => (stage u).signal cv.mCv

/-- `NotifyOne`: a signal wakes threads of the system's choice (`chosen`). -/
def ConditionVariable.notifyOne (cv : ConditionVariable) (chosen : T → Bool) (stage : T → Stage σ) :
    T → Stage σ :=
  fun u => if chosen u then (stage u).signal cv.mCv else stage u

/-- The steps: those of `SharedWaits`, the two notifications, and writing the shared state. -/
inductive NotifyAction (T H σ : Type)
  | call (t : T) (h : H) (c : Call) (rcConsistent : Rc) (result : Except SystemError Reply)
  | enter (t : T) (cv : ConditionVariable) (c : WaitCall) (pred : σ → Bool)
  | evaluate (t : T)
  | sleep (t : T)
  | refuse (t : T) (rc : Rc)
  | wake (t : T) (rc : Rc)
  | notifyOne (t : T) (cv : ConditionVariable)
  | notifyAll (t : T) (cv : ConditionVariable)
  | write (t : T) (f : σ → σ)
  | die (t : T)

variable [DecidableEq T]

inductive NotifyStep (attr : Attr) (handle : H → Mutex) :
    NotifySys T σ → NotifyAction T H σ → NotifySys T σ → Prop
  | call {s : NotifySys T σ} {s₁ : Sys T} {t : T} {h : H} {c : Call} {rcConsistent : Rc}
      {r : Except SystemError Reply} (hstage : s.stage t = .idle)
      (hscoped : UnlocksReported s.toSys (.call t h c rcConsistent r))
      (hcall : SysStep attr handle s.toSys (.call t h c rcConsistent r) s₁) :
      NotifyStep attr handle s (.call t h c rcConsistent r) ⟨s₁, s.data, s.stage⟩
  | enter {s : NotifySys T σ} {t : T} {cv : ConditionVariable} {c : WaitCall} {pred : σ → Bool}
      (halive : s.alive t = true) (hstage : s.stage t = .idle) (hscoped : 0 < s.reported t) :
      NotifyStep attr handle s (.enter t cv c pred)
        ⟨s.toSys, s.data, update s.stage t (.head cv c pred)⟩
  /-- The predicate is evaluated on the shared state. -/
  | evaluate {s : NotifySys T σ} {t : T} {cv : ConditionVariable} {c : WaitCall} {pred : σ → Bool}
      (halive : s.alive t = true) (hstage : s.stage t = .head cv c pred) :
      NotifyStep attr handle s (.evaluate t)
        ⟨s.toSys, s.data, update s.stage t ((c.loopHead (pred s.data)).evaluated cv c pred)⟩
  /-- The OS wait gives the mutex back and falls asleep in one. -/
  | sleep {s : NotifySys T σ} {t : T} {cv : ConditionVariable} {c : WaitCall} {pred : σ → Bool} {rc : Rc}
      {m : State T} (halive : s.alive t = true) (hstage : s.stage t = .waiting cv c pred)
      (hunlock : (rc, m) ∈ RobustMutex.unlock attr t s.mtx) :
      NotifyStep attr handle s (.sleep t)
        ⟨⟨⟨m, update s.reported t (s.reported t - 1)⟩, s.alive⟩, s.data,
          update s.stage t (.asleep cv c pred false)⟩
  | refuse {s : NotifySys T σ} {t : T} {cv : ConditionVariable} {c : WaitCall} {pred : σ → Bool} {rc : Rc}
      (halive : s.alive t = true) (hstage : s.stage t = .waiting cv c pred)
      (hrc : rc ≠ 0 ∧ rc ≠ EOWNERDEAD) :
      NotifyStep attr handle s (.refuse t rc)
        ⟨s.toSys, s.data, update s.stage t ((c.resume cv rc).resumed cv c pred)⟩
  /-- A sleeper wakes, notified or not. -/
  | wake {s : NotifySys T σ} {t : T} {cv : ConditionVariable} {c : WaitCall} {pred : σ → Bool}
      {notified : Bool} {rc : Rc} {m : State T} (halive : s.alive t = true)
      (hstage : s.stage t = .asleep cv c pred notified)
      (hmtx : (rc, m) ∈ reacquire c.osWait.returns t s.mtx) :
      NotifyStep attr handle s (.wake t rc)
        ⟨⟨⟨m, update s.reported t (s.reported t + 1)⟩, s.alive⟩, s.data,
          update s.stage t ((c.resume cv rc).resumed cv c pred)⟩
  /-- If anybody sleeps there, a signal wakes at least one. -/
  | notifyOne {s : NotifySys T σ} {t : T} {cv : ConditionVariable} {chosen : T → Bool}
      (halive : s.alive t = true)
      (hone : (∃ u, s.Sleeps u cv.mCv) → ∃ u, s.Sleeps u cv.mCv ∧ chosen u = true) :
      NotifyStep attr handle s (.notifyOne t cv) ⟨s.toSys, s.data, cv.notifyOne chosen s.stage⟩
  | notifyAll {s : NotifySys T σ} {t : T} {cv : ConditionVariable} (halive : s.alive t = true) :
      NotifyStep attr handle s (.notifyAll t cv) ⟨s.toSys, s.data, cv.notifyAll s.stage⟩
  /-- Client code writes the shared state while it has the mutex. -/
  | write {s : NotifySys T σ} {t : T} {f : σ → σ} (halive : s.alive t = true)
      (hstage : s.stage t = .idle) (hscoped : 0 < s.reported t) :
      NotifyStep attr handle s (.write t f) ⟨s.toSys, f s.data, s.stage⟩
  /-- A thread dies, at any point.  A sleeper that dies is no longer blocked on the condition variable, so a
  later signal is not spent on it: POSIX has a signal unblock at least one of the threads that are blocked.  (A
  library that goes on counting a dead waiter may spend one on it.) -/
  | die {s : NotifySys T σ} {s₁ : Sys T} {t : T} (hdie : SysStep attr handle s.toSys (.die t) s₁) :
      NotifyStep attr handle s (.die t) ⟨s₁, s.data, update s.stage t .idle⟩

/-- A waiter wakes neither to an abandoned mutex nor to one it holds inconsistent already. -/
def NotifySys.WakesSound (s : NotifySys T σ) : NotifyAction T H σ → Prop
  | .wake t _ => s.mtx ≠ .abandoned ∧ ∀ n, s.mtx ≠ .held t n false
  | _ => True

/-! ## Refinement of the system without notifications -/

section Refinement

variable {attr : Attr} {handle : H → Mutex}

omit [DecidableEq T] in
@[simp] theorem phase_signal (mCv : Addr) (stage : Stage σ) : (stage.signal mCv).phase = stage.phase := by
  cases stage <;> rfl

theorem phase_update (stage : T → Stage σ) (t : T) (new : Stage σ) :
    (fun u => (update stage t new u).phase) = update (fun u => (stage u).phase) t new.phase := by
  funext u
  by_cases hu : u = t
  · subst hu
    rw [update_self, update_self]
  · rw [update_of_ne hu, update_of_ne hu]

/-- A wait goes to sleep only on a predicate that is false; the waits without one always do. -/
theorem WaitCall.loopHead_false (c : WaitCall) : c.loopHead false = .goesOn := by
  cases c <;> rfl

theorem WaitCall.eq_false_of_goesOn {c : WaitCall} (hc : c.HasPredicate) {b : Bool}
    (h : c.loopHead b = .goesOn) : b = false := by
  cases c with
  | wait | waitUntil _ | waitFor _ _ => exact hc.elim
  | waitPred | waitUntilPred _ | waitForPred _ _ =>
      cases b with
      | false => rfl
      | true => cases h

omit [DecidableEq T] in
@[simp] theorem phase_resumed (cv : ConditionVariable) (c : WaitCall) (pred : σ → Bool) (p : Progress) :
    (p.resumed cv c pred).phase = p.phase cv c := by
  cases p <;> rfl

/-- A system in which one thread changed its stage. -/
theorem toWaitSys_update (sys : Sys T) (data : σ) (stage : T → Stage σ) (t : T) (new : Stage σ) :
    NotifySys.toWaitSys ⟨sys, data, update stage t new⟩ =
      ⟨sys, update (fun u => (stage u).phase) t new.phase⟩ := by
  simp only [NotifySys.toWaitSys, phase_update]

/-- **Refinement.**  Each step is one of `SharedWaits`, or nothing that system sees; and a sound wake is a
sound wake there. -/
theorem waitStep_of_notifyStep {s s' : NotifySys T σ} {a : NotifyAction T H σ}
    (hstep : NotifyStep attr handle s a s') :
    s'.toWaitSys = s.toWaitSys ∨
      ∃ a' : WaitAction T H, WaitStep attr handle s.toWaitSys a' s'.toWaitSys ∧
        (s.WakesSound a → AxzlCore.WakesSound s.toWaitSys a') := by
  cases hstep with
  | @call s₁ t h c rcConsistent r hstage hscoped hcall =>
      have hphase : s.toWaitSys.phase t = .idle := congrArg Stage.phase hstage
      exact .inr ⟨.call t h c rcConsistent r, .call hphase hscoped hcall, fun _ => trivial⟩
  | @enter t cv c pred halive hstage hscoped =>
      have hphase : s.toWaitSys.phase t = .idle := congrArg Stage.phase hstage
      rw [toWaitSys_update]
      exact .inr ⟨.enter t cv c, .enter halive hphase hscoped, fun _ => trivial⟩
  | @evaluate t cv c pred halive hstage =>
      have hphase : s.toWaitSys.phase t = .holding cv c := congrArg Stage.phase hstage
      rw [toWaitSys_update]
      cases hhead : c.loopHead (pred s.data) with
      | ends r => exact .inr ⟨.check t (pred s.data), .check halive hphase hhead, fun _ => trivial⟩
      | goesOn =>
          -- the thread stays at the head of the loop there
          refine .inl ?_
          show (⟨s.toSys, update (fun u => (s.stage u).phase) t (.holding cv c)⟩ : WaitSys T) = _
          rw [update_eq_self_iff.mpr hphase.symm]
          rfl
  | @sleep t cv c pred rc m halive hstage hunlock =>
      have hphase : s.toWaitSys.phase t = .holding cv c := congrArg Stage.phase hstage
      rw [toWaitSys_update]
      exact .inr ⟨.block t false, .block halive hphase c.loopHead_false hunlock, fun _ => trivial⟩
  | @refuse t cv c pred rc halive hstage hrc =>
      have hphase : s.toWaitSys.phase t = .holding cv c := congrArg Stage.phase hstage
      rw [toWaitSys_update, phase_resumed]
      exact .inr ⟨.refuse t false rc, .refuse halive hphase c.loopHead_false hrc, fun _ => trivial⟩
  | @wake t cv c pred notified rc m halive hstage hmtx =>
      have hphase : s.toWaitSys.phase t = .blocked cv c := congrArg Stage.phase hstage
      rw [toWaitSys_update, phase_resumed]
      exact .inr ⟨.wake t rc, .wake halive hphase hmtx, fun hok => hok⟩
  | @notifyOne t cv chosen halive hone =>
      refine .inl ?_
      simp only [NotifySys.toWaitSys, ConditionVariable.notifyOne]
      congr 1
      funext u
      split
      · rw [phase_signal]
      · rfl
  | notifyAll halive =>
      refine .inl ?_
      simp only [NotifySys.toWaitSys, ConditionVariable.notifyAll, phase_signal]
  | write halive hstage hscoped => exact .inl rfl
  | @die s₁ t hdie =>
      rw [toWaitSys_update]
      exact .inr ⟨.die t, .die hdie, fun _ => trivial⟩

/-- Sound steps keep the mutex backed, and every thread at the head of a wait its report. -/
theorem backed_notifyStep {s s' : NotifySys T σ} {a : NotifyAction T H σ} (hinv : WaitsBacked s.toWaitSys)
    (hok : s.WakesSound a) (hstep : NotifyStep attr handle s a s') : WaitsBacked s'.toWaitSys := by
  rcases waitStep_of_notifyStep hstep with hsame | ⟨a', hstep', hsound⟩
  · rw [hsame]
    exact hinv
  · exact waitsBacked_step hinv (hsound hok) hstep'

theorem waitsBacked_notifyInit (data : σ) : WaitsBacked (NotifySys.init data : NotifySys T σ).toWaitSys :=
  ⟨holdingReported_init, backed_init⟩

end Refinement

/-! ## The mutex protects the shared state -/

section Protection

variable {attr : Attr} {handle : H → Mutex}

/-- Two threads with reports are the same thread. -/
theorem reported_unique {s : NotifySys T σ} (hinv : WaitsBacked s.toWaitSys) {t u : T}
    (ht : 0 < s.reported t) (hu : 0 < s.reported u) : u = t := by
  have hle := hinv.backed.le_holds t
  obtain ⟨n, c, hheld⟩ := eq_held_of_holds (Nat.lt_of_lt_of_le ht hle)
  by_contra hne
  have hzero : s.reported u = 0 := hinv.backed.reported_of_ne hheld hne
  omega

/-- Only a write changes the shared state. -/
theorem data_of_step {s s' : NotifySys T σ} {a : NotifyAction T H σ}
    (hstep : NotifyStep attr handle s a s') :
    s'.data = s.data ∨
      ∃ t f, a = .write t f ∧ s.stage t = .idle ∧ 0 < s.reported t ∧ s'.stage = s.stage ∧
        s'.data = f s.data := by
  cases hstep with
  | @write t f halive hstage hscoped => exact .inr ⟨t, f, rfl, hstage, hscoped, rfl, rfl⟩
  | call | enter | evaluate | sleep | refuse | wake | notifyOne | notifyAll | die => exact .inl rfl

/-- While a thread has a report, nobody else changes the shared state. -/
theorem data_of_reported {s s' : NotifySys T σ} {a : NotifyAction T H σ} {t : T}
    (hinv : WaitsBacked s.toWaitSys) (hreported : 0 < s.reported t) (hquiet : ∀ f, a ≠ .write t f)
    (hstep : NotifyStep attr handle s a s') : s'.data = s.data := by
  rcases data_of_step hstep with hsame | ⟨u, f, rfl, -, hu, -⟩
  · exact hsame
  · have hut : u = t := reported_unique hinv hreported hu
    rw [hut] at hquiet
    exact absurd rfl (hquiet f)

/-- Runs with sound wakes keep the mutex backed. -/
theorem backed_of_notifyRun {data : σ} {trs : List (Transition (NotifySys T σ) (NotifyAction T H σ))}
    {s : NotifySys T σ} (hrun : Run (NotifyStep attr handle) (NotifySys.init data) trs s)
    (hsound : ∀ tr ∈ trs, tr.pre.WakesSound tr.act) : WaitsBacked s.toWaitSys :=
  (hrun.guarded_invariant (fun s a => s.WakesSound a)
    (fun _ _ _ hinv hok hstep => backed_notifyStep hinv hok hstep) hsound (waitsBacked_notifyInit data)).1

/-- From a state with a backed mutex: what a thread does not write while it keeps a report stays. -/
theorem data_of_kept_report {trs : List (Transition (NotifySys T σ) (NotifyAction T H σ))}
    {s s' : NotifySys T σ} (hrun : Run (NotifyStep attr handle) s trs s')
    (hbacked : WaitsBacked s.toWaitSys) (hsound : ∀ tr ∈ trs, tr.pre.WakesSound tr.act) {t : T}
    (hreported : ∀ tr ∈ trs, 0 < tr.pre.reported t) (hquiet : ∀ tr ∈ trs, ∀ f, tr.act ≠ .write t f) :
    s'.data = s.data := by
  have hkeep : ∀ (s₁ : NotifySys T σ) (a : NotifyAction T H σ) (s₂ : NotifySys T σ),
      WaitsBacked s₁.toWaitSys ∧ s₁.data = s.data →
        s₁.WakesSound a ∧ 0 < s₁.reported t ∧ (∀ f, a ≠ .write t f) →
          NotifyStep attr handle s₁ a s₂ → WaitsBacked s₂.toWaitSys ∧ s₂.data = s.data :=
    fun _ _ _ hinv hok hstep => ⟨backed_notifyStep hinv.1 hok.1 hstep,
      (data_of_reported hinv.1 hok.2.1 hok.2.2 hstep).trans hinv.2⟩
  exact (hrun.guarded_invariant _ hkeep
    (fun tr htr => ⟨hsound tr htr, hreported tr htr, hquiet tr htr⟩) ⟨hbacked, rfl⟩).1.2

/-- **The mutex protects the shared state.**  Over any stretch of a run with sound wakes in which a thread
keeps a report and writes nothing itself, the shared state does not change. -/
theorem protected_data {data : σ} {trs trs' : List (Transition (NotifySys T σ) (NotifyAction T H σ))}
    {s s' : NotifySys T σ} (hrun : Run (NotifyStep attr handle) (NotifySys.init data) trs s)
    (hsound : ∀ tr ∈ trs, tr.pre.WakesSound tr.act) (hrun' : Run (NotifyStep attr handle) s trs' s')
    (hsound' : ∀ tr ∈ trs', tr.pre.WakesSound tr.act) {t : T}
    (hreported : ∀ tr ∈ trs', 0 < tr.pre.reported t)
    (hquiet : ∀ tr ∈ trs', ∀ f, tr.act ≠ .write t f) : s'.data = s.data :=
  data_of_kept_report hrun' (backed_of_notifyRun hrun hsound) hsound' hreported hquiet

/-- A thread locks the free mutex through the handle that created it. -/
theorem notifyStep_lock {s : NotifySys T σ} {t : T} (halive : s.alive t = true) (hstage : s.stage t = .idle)
    (hfree : s.mtx = .free) :
    NotifyStep Mutex.shmBehaviour shmHandle s (.call t .created .lock 0 (.ok .void))
      ⟨⟨⟨.held t 0 true, Session.note s.reported t true⟩, s.alive⟩, s.data, s.stage⟩ := by
  have hlock : ((.ok .void, .held t 0 true) : Except SystemError Reply × State T) ∈
      Call.lock.perform Mutex.shmBehaviour (shmHandle .created) t 0 s.mtx := by
    rw [hfree]
    exact lock_of_acquires .fresh
  exact .call hstage trivial (.call halive hlock)

theorem note_pos (reported : T → Nat) (t : T) : 0 < Session.note reported t true t := by
  simp [note_self]

/-- Thread 0 has the mutex and notifies; thread 1 fails to get it. -/
theorem protected_data_contended :
    ∃ (trs' : List (Transition (NotifySys Nat Bool) (NotifyAction Nat Origin Bool)))
      (s s' : NotifySys Nat Bool),
      Run (NotifyStep Mutex.shmBehaviour shmHandle) s trs' s' ∧ trs'.length = 2 ∧
        s.mtx = .held 0 0 true ∧ s'.data = s.data := by
  have hbusy : ((.ok (.bool false), .held 0 0 true) : Except SystemError Reply × State Nat) ∈
      Call.tryLock.perform Mutex.shmBehaviour (shmHandle .created) 1 0 (.held 0 0 true) :=
    mem_perform_tryLock.mpr
      ⟨.ok false, Comp.mem_ofList_bind.mpr ⟨EBUSY, .held 0 0 true, by decide, Comp.mem_pure.mpr ⟨rfl, rfl⟩⟩, rfl⟩
  have hlock : NotifyStep Mutex.shmBehaviour shmHandle (NotifySys.init false : NotifySys Nat Bool) _ _ :=
    notifyStep_lock (t := 0) rfl rfl rfl
  have hnotify : ∀ s : NotifySys Nat Bool, s.alive 0 = true →
      NotifyStep Mutex.shmBehaviour shmHandle s
        (.notifyAll 0 (ConditionVariable.named "cv" none (.caller 1))) _ := fun _ halive => .notifyAll halive
  have hrun' := Run.cons
    (hnotify ⟨⟨⟨_, Session.note (fun _ => 0) 0 true⟩, fun _ => true⟩, false, fun _ => .idle⟩ rfl)
    (.single (NotifyStep.call (t := 1) (c := .tryLock) rfl trivial (.call (h := Origin.created) rfl hbusy)))
  refine ⟨_, _, _, hrun', rfl, rfl, ?_⟩
  exact protected_data (t := 0) (.single hlock) (by simp [NotifySys.WakesSound]) hrun'
    (by simp [NotifySys.WakesSound]) (by simp [note_pos]) (by simp)

end Protection

/-! ## No lost wake-ups -/

section LostWakeups

variable {attr : Attr} {handle : H → Mutex}

/-- A thread on its way to the OS wait found its predicate false, and it is false still. -/
def DecidedOnFalse (s : NotifySys T σ) : Prop :=
  ∀ t cv c pred, s.stage t = .waiting cv c pred → c.HasPredicate → pred s.data = false

omit [DecidableEq T] in
theorem signal_eq_waiting {mCv : Addr} {stage : Stage σ} {cv : ConditionVariable} {c : WaitCall}
    {pred : σ → Bool} : stage.signal mCv = .waiting cv c pred ↔ stage = .waiting cv c pred := by
  cases stage <;> simp [Stage.signal]

omit [DecidableEq T] in
/-- Who is asleep and not notified after a signal was so before, on another condition variable. -/
theorem signal_eq_asleep {mCv : Addr} {stage : Stage σ} {cv : ConditionVariable} {c : WaitCall}
    {pred : σ → Bool} :
    stage.signal mCv = .asleep cv c pred false ↔ stage = .asleep cv c pred false ∧ cv.mCv ≠ mCv := by
  cases stage with
  | idle | head _ _ _ | waiting _ _ _ => simp [Stage.signal]
  | asleep cv' c' pred' notified =>
      simp only [Stage.signal, Stage.asleep.injEq, Bool.or_eq_false_iff, decide_eq_false_iff_not]
      constructor
      · rintro ⟨rfl, rfl, rfl, rfl, hne⟩
        exact ⟨⟨rfl, rfl, rfl, rfl⟩, hne⟩
      · rintro ⟨⟨rfl, rfl, rfl, rfl⟩, hne⟩
        exact ⟨rfl, rfl, rfl, rfl, hne⟩

/-- What a step does to the stage of a thread: nothing, an end or a new round of its wait, a predicate found
false, falling asleep, or a signal. -/
theorem stage_cases {s s' : NotifySys T σ} {a : NotifyAction T H σ} (hstep : NotifyStep attr handle s a s')
    (t : T) :
    s'.stage t = s.stage t ∨ s'.stage t = .idle ∨ (∃ cv c pred, s'.stage t = .head cv c pred) ∨
      (∃ cv c pred, a = .evaluate t ∧ s'.stage t = .waiting cv c pred ∧
        c.loopHead (pred s.data) = .goesOn) ∨
      (∃ cv c pred, s.stage t = .waiting cv c pred ∧ s'.stage t = .asleep cv c pred false) ∨
      ∃ mCv, s'.stage t = (s.stage t).signal mCv := by
  have hupdate : ∀ (u : T) (new : Stage σ),
      update s.stage u new t = s.stage t ∨ t = u ∧ update s.stage u new t = new := by
    intro u new
    by_cases htu : t = u
    · exact .inr ⟨htu, by rw [htu, update_self]⟩
    · exact .inl (update_of_ne htu _ _)
  have hresumed : ∀ (p : Progress) (cv : ConditionVariable) (c : WaitCall) (pred : σ → Bool),
      p.resumed cv c pred = .idle ∨ p.resumed cv c pred = .head cv c pred := by
    intro p cv c pred
    cases p with
    | ends r => exact .inl rfl
    | goesOn => exact .inr rfl
  cases hstep with
  | call | write => exact .inl rfl
  | @enter u cv c pred halive hstage hscoped =>
      rcases hupdate u (.head cv c pred) with hsame | ⟨-, hnew⟩
      · exact .inl hsame
      · exact .inr (.inr (.inl ⟨cv, c, pred, hnew⟩))
  | @evaluate u cv c pred halive hstage =>
      rcases hupdate u ((c.loopHead (pred s.data)).evaluated cv c pred) with hsame | ⟨rfl, hnew⟩
      · exact .inl hsame
      · cases hhead : c.loopHead (pred s.data) with
        | ends r =>
            rw [hhead] at hnew
            exact .inr (.inl hnew)
        | goesOn =>
            rw [hhead] at hnew
            exact .inr (.inr (.inr (.inl ⟨cv, c, pred, rfl, hnew, hhead⟩)))
  | @sleep u cv c pred rc m halive hstage hunlock =>
      rcases hupdate u (.asleep cv c pred false) with hsame | ⟨rfl, hnew⟩
      · exact .inl hsame
      · exact .inr (.inr (.inr (.inr (.inl ⟨cv, c, pred, hstage, hnew⟩))))
  | @refuse u cv c pred rc halive hstage hrc =>
      rcases hupdate u ((c.resume cv rc).resumed cv c pred) with hsame | ⟨-, hnew⟩
      · exact .inl hsame
      · rcases hresumed (c.resume cv rc) cv c pred with hidle | hhead
        · exact .inr (.inl (hnew.trans hidle))
        · exact .inr (.inr (.inl ⟨cv, c, pred, hnew.trans hhead⟩))
  | @wake u cv c pred notified rc m halive hstage hmtx =>
      rcases hupdate u ((c.resume cv rc).resumed cv c pred) with hsame | ⟨-, hnew⟩
      · exact .inl hsame
      · rcases hresumed (c.resume cv rc) cv c pred with hidle | hhead
        · exact .inr (.inl (hnew.trans hidle))
        · exact .inr (.inr (.inl ⟨cv, c, pred, hnew.trans hhead⟩))
  | @notifyOne u cv chosen halive hone =>
      change (if chosen t then (s.stage t).signal cv.mCv else s.stage t) = s.stage t ∨ _
      by_cases hchosen : chosen t
      · exact .inr (.inr (.inr (.inr (.inr ⟨cv.mCv, if_pos hchosen⟩))))
      · exact .inl (if_neg hchosen)
  | @notifyAll u cv halive => exact .inr (.inr (.inr (.inr (.inr ⟨cv.mCv, rfl⟩))))
  | @die s₁ u hdie =>
      rcases hupdate u .idle with hsame | ⟨-, hnew⟩
      · exact .inl hsame
      · exact .inr (.inl hnew)

/-- How a thread came to be on its way to the OS wait. -/
theorem waiting_of_step {s s' : NotifySys T σ} {a : NotifyAction T H σ} {t : T} {cv : ConditionVariable}
    {c : WaitCall} {pred : σ → Bool} (hstep : NotifyStep attr handle s a s')
    (h : s'.stage t = .waiting cv c pred) :
    s.stage t = .waiting cv c pred ∨ a = .evaluate t ∧ c.loopHead (pred s.data) = .goesOn := by
  rcases stage_cases hstep t with
    hcase | hcase | ⟨cv', c', pred', hcase⟩ | ⟨cv', c', pred', hact, hcase, hhead⟩ |
      ⟨cv', c', pred', -, hcase⟩ | ⟨mCv, hcase⟩
  · exact .inl (hcase.symm.trans h)
  · cases hcase.symm.trans h
  · cases hcase.symm.trans h
  · obtain ⟨rfl, rfl, rfl⟩ := Stage.waiting.inj (hcase.symm.trans h)
    exact .inr ⟨hact, hhead⟩
  · cases hcase.symm.trans h
  · exact .inl (signal_eq_waiting.mp (hcase.symm.trans h))

/-- How a thread came to be asleep without a notification. -/
theorem asleep_of_step {s s' : NotifySys T σ} {a : NotifyAction T H σ} {t : T} {cv : ConditionVariable}
    {c : WaitCall} {pred : σ → Bool} (hstep : NotifyStep attr handle s a s')
    (h : s'.stage t = .asleep cv c pred false) :
    s.stage t = .asleep cv c pred false ∨ s.stage t = .waiting cv c pred := by
  rcases stage_cases hstep t with
    hcase | hcase | ⟨cv', c', pred', hcase⟩ | ⟨cv', c', pred', -, hcase, -⟩ |
      ⟨cv', c', pred', hwaiting, hcase⟩ | ⟨mCv, hcase⟩
  · exact .inl (hcase.symm.trans h)
  · cases hcase.symm.trans h
  · cases hcase.symm.trans h
  · cases hcase.symm.trans h
  · obtain ⟨rfl, rfl, rfl, -⟩ := Stage.asleep.inj (hcase.symm.trans h)
    exact .inr hwaiting
  · exact .inl (signal_eq_asleep.mp (hcase.symm.trans h)).1

/-- Nobody can change the shared state between the evaluation of a predicate and the sleep. -/
theorem decidedOnFalse_step {s s' : NotifySys T σ} {a : NotifyAction T H σ}
    (hinv : WaitsBacked s.toWaitSys) (hdecided : DecidedOnFalse s) (hstep : NotifyStep attr handle s a s') :
    DecidedOnFalse s' := by
  intro t cv c pred hwaiting hc
  rcases data_of_step hstep with hsame | ⟨u, f, rfl, hidle, hu, hstage, -⟩
  · rw [hsame]
    rcases waiting_of_step hstep hwaiting with hbefore | ⟨-, hhead⟩
    · exact hdecided t cv c pred hbefore hc
    · exact WaitCall.eq_false_of_goesOn hc hhead
  · -- the writer would have to be the waiter itself
    rw [hstage] at hwaiting
    have hphase : s.toWaitSys.phase t = .holding cv c := congrArg Stage.phase hwaiting
    have hut : u = t := reported_unique hinv (hinv.holding t cv c hphase) hu
    subst hut
    rw [hidle] at hwaiting
    cases hwaiting

/-- A write turned the predicate true while the thread was asleep. -/
def TurnedTrue (t : T) (cv : ConditionVariable) (c : WaitCall) (pred : σ → Bool)
    (tr : Transition (NotifySys T σ) (NotifyAction T H σ)) : Prop :=
  (∃ u f, tr.act = .write u f) ∧ tr.pre.stage t = .asleep cv c pred false ∧
    pred tr.pre.data = false ∧ pred tr.post.data = true

/-- The thread slept on unnoticed: there was no `NotifyAll`, and a `NotifyOne` went to somebody else. -/
def Unnoticed (t : T) (cv : ConditionVariable) (c : WaitCall) (pred : σ → Bool)
    (tr : Transition (NotifySys T σ) (NotifyAction T H σ)) : Prop :=
  tr.pre.stage t = .asleep cv c pred false ∧ tr.post.stage t = .asleep cv c pred false ∧
    (∀ u cv', tr.act = .notifyAll u cv' → cv'.mCv ≠ cv.mCv) ∧
    ∀ u cv', tr.act = .notifyOne u cv' → cv'.mCv = cv.mCv →
      ∃ v, v ≠ t ∧ tr.pre.Sleeps v cv.mCv ∧ ¬ tr.post.Sleeps v cv.mCv

/-- A step through which a thread sleeps on did not notice it. -/
theorem unnoticed_of_asleep {s s' : NotifySys T σ} {a : NotifyAction T H σ} {t : T}
    {cv : ConditionVariable} {c : WaitCall} {pred : σ → Bool} (hstep : NotifyStep attr handle s a s')
    (hpre : s.stage t = .asleep cv c pred false) (hpost : s'.stage t = .asleep cv c pred false) :
    Unnoticed t cv c pred ⟨s, a, s'⟩ := by
  refine ⟨hpre, hpost, ?_, ?_⟩
  · rintro u cv' rfl
    cases hstep with
    | notifyAll halive => exact fun heq => (signal_eq_asleep.mp hpost).2 heq.symm
  · rintro u cv' rfl heq
    cases hstep with
    | @notifyOne _ _ chosen halive hone =>
        obtain ⟨v, ⟨cv₁, c₁, pred₁, hv, hcv₁⟩, hchosen⟩ := hone ⟨t, cv, c, pred, hpre, heq.symm⟩
        -- the signal wakes `v`, and would have woken the thread
        have hsignalled : ∀ w, chosen w = true →
            cv'.notifyOne chosen s.stage w = (s.stage w).signal cv'.mCv := fun w hw => if_pos hw
        refine ⟨v, ?_, ⟨cv₁, c₁, pred₁, hv, hcv₁.trans heq⟩, ?_⟩
        · rintro rfl
          change cv'.notifyOne chosen s.stage v = _ at hpost
          rw [hsignalled v hchosen] at hpost
          exact (signal_eq_asleep.mp hpost).2 heq.symm
        · rintro ⟨cv₂, c₂, pred₂, hv₂, hcv₂⟩
          change cv'.notifyOne chosen s.stage v = _ at hv₂
          rw [hsignalled v hchosen] at hv₂
          exact (signal_eq_asleep.mp hv₂).2 (hcv₂.trans heq.symm)

/-- What the history of a run says about the waiters that sleep on. -/
structure SleepersUnnoticed (trs : List (Transition (NotifySys T σ) (NotifyAction T H σ)))
    (s : NotifySys T σ) : Prop where
  backed : WaitsBacked s.toWaitSys
  decided : DecidedOnFalse s
  since : ∀ t cv c pred, s.stage t = .asleep cv c pred false → c.HasPredicate → pred s.data = true →
    Since (TurnedTrue t cv c pred) (Unnoticed t cv c pred) trs

theorem sleepersUnnoticed_step {trs : List (Transition (NotifySys T σ) (NotifyAction T H σ))}
    {s s' : NotifySys T σ} {a : NotifyAction T H σ} (hinv : SleepersUnnoticed trs s)
    (hok : s.WakesSound a) (hstep : NotifyStep attr handle s a s') :
    SleepersUnnoticed (trs ++ [⟨s, a, s'⟩]) s' where
  backed := backed_notifyStep hinv.backed hok hstep
  decided := decidedOnFalse_step hinv.backed hinv.decided hstep
  since t cv c pred hasleep hc htrue := by
    rcases data_of_step hstep with hsame | ⟨u, f, rfl, -, -, hstage, -⟩
    · rw [hsame] at htrue
      rcases asleep_of_step hstep hasleep with hbefore | hwaiting
      · exact (hinv.since t cv c pred hbefore hc htrue).later (unnoticed_of_asleep hstep hbefore hasleep)
      · -- it would not have gone to sleep
        rw [hinv.decided t cv c pred hwaiting hc] at htrue
        cases htrue
    · have hbefore : s.stage t = .asleep cv c pred false := by
        rw [← hstage]
        exact hasleep
      cases hpred : pred s.data with
      | true =>
          exact (hinv.since t cv c pred hbefore hc hpred).later (unnoticed_of_asleep hstep hbefore hasleep)
      | false => exact .now ⟨⟨u, f, rfl⟩, hbefore, hpred, htrue⟩

/-- **No wake-up is lost.**  In every run with sound wakes, if a thread sleeps in a predicate wait while its
predicate is true, then some write turned it true during this sleep, and nobody has called `NotifyAll` on
its condition variable since, and each `NotifyOne` on it has woken another waiter. -/
theorem no_lost_wakeup {data : σ} {trs : List (Transition (NotifySys T σ) (NotifyAction T H σ))}
    {s : NotifySys T σ} (hrun : Run (NotifyStep attr handle) (NotifySys.init data) trs s)
    (hsound : ∀ tr ∈ trs, tr.pre.WakesSound tr.act) {t : T} {cv : ConditionVariable} {c : WaitCall}
    {pred : σ → Bool} (hasleep : s.stage t = .asleep cv c pred false) (hc : c.HasPredicate)
    (htrue : pred s.data = true) : Since (TurnedTrue t cv c pred) (Unnoticed t cv c pred) trs := by
  have hinit : SleepersUnnoticed ([] : List (Transition (NotifySys T σ) (NotifyAction T H σ)))
      (NotifySys.init data) := by
    refine ⟨waitsBacked_notifyInit data, fun t cv c pred h => ?_, fun t cv c pred h => ?_⟩
    · cases h
    · cases h
  have hinv := hrun.history_invariant (fun s a => s.WakesSound a)
    (fun _ _ _ _ hinv hok hstep => sleepersUnnoticed_step hinv hok hstep) hsound hinit
  exact hinv.since t cv c pred hasleep hc htrue

/-- A waiter sleeps, the writer makes its predicate true and has not notified anybody yet. -/
theorem no_lost_wakeup_before_notify :
    ∃ (trs : List (Transition (NotifySys Nat Bool) (NotifyAction Nat Origin Bool)))
      (s : NotifySys Nat Bool) (cv : ConditionVariable),
      Run (NotifyStep Mutex.shmBehaviour shmHandle) (NotifySys.init false) trs s ∧
        s.stage 1 = .asleep cv .waitPred id false ∧ s.data = true ∧
        Since (TurnedTrue 1 cv .waitPred id) (Unnoticed 1 cv .waitPred id) trs := by
  have hunlock : ((0, .free) : Rc × State Nat) ∈
      RobustMutex.unlock Mutex.shmBehaviour 1 (.held 1 0 true) := by decide
  have henter : ∀ s : NotifySys Nat Bool, s.alive 1 = true → s.stage 1 = .idle → 0 < s.reported 1 →
      NotifyStep Mutex.shmBehaviour shmHandle s
        (.enter 1 (ConditionVariable.named "cv" none (.caller 1)) .waitPred id) _ :=
    fun _ halive hstage hscoped => .enter halive hstage hscoped
  have hlock : NotifyStep Mutex.shmBehaviour shmHandle (NotifySys.init false : NotifySys Nat Bool) _ _ :=
    notifyStep_lock (t := 1) rfl rfl rfl
  -- thread 1 goes to sleep; thread 0 locks and writes
  have hrun := Run.cons hlock
    (.cons (henter _ rfl rfl (note_pos _ 1))
    (.cons (.evaluate rfl (update_self _ _ _))
    (.cons (.sleep rfl (update_self _ _ _) hunlock)
    (.cons (notifyStep_lock (t := 0) rfl rfl rfl)
    (.single (.write (t := 0) (f := fun _ => true) rfl rfl (note_pos _ 0)))))))
  refine ⟨_, _, _, hrun, rfl, rfl, ?_⟩
  exact no_lost_wakeup hrun (by simp [NotifySys.WakesSound]) rfl trivial rfl

end LostWakeups

end AxzlCore

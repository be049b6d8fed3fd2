import AxzlCore.ConditionVariable.Notifications

/-!
# What the answer of a predicate wait says

A predicate wait returns while other threads run, and its caller goes on under the mutex.  Here its answer is
compared with the shared state: with what the predicate was when the wait last evaluated it, and with what it
is from the return on.

* `NotifySys.Ends` — a step ends a wait operation, with a result.
* `DecidedSince` — the invariant of histories: whoever sleeps evaluated its predicate to false, last of all.
* `predicate_answers` — the answer is the value at the last evaluation; a positive one finds the mutex held and
  stays true while the caller keeps it.
-/

set_option autoImplicit false

namespace AxzlCore

open Errno Function RobustMutex Runs

variable {T H σ : Type}

/-- The step ends a wait operation of the thread, with the result `r`. -/
def NotifySys.Ends (s : NotifySys T σ) (a : NotifyAction T H σ) (t : T) (cv : ConditionVariable)
    (c : WaitCall) (pred : σ → Bool) (r : Except SystemError WaitReply) : Prop :=
  (a = .evaluate t ∧ s.stage t = .head cv c pred ∧ c.loopHead (pred s.data) = .ends r) ∨
    (∃ rc, a = .refuse t rc ∧ s.stage t = .waiting cv c pred ∧ c.resume cv rc = .ends r) ∨
    ∃ rc notified, a = .wake t rc ∧ s.stage t = .asleep cv c pred notified ∧ c.resume cv rc = .ends r

/-- What a predicate wait says of its predicate: `Wait` returns nothing, once it is true. -/
def WaitReply.answer : WaitReply → Bool
  | .bool b => b
  | .void | .status _ => true

/-- The thread evaluates its predicate, to `b`. -/
def EvaluatesTo (t : T) (pred : σ → Bool) (b : Bool)
    (tr : Transition (NotifySys T σ) (NotifyAction T H σ)) : Prop :=
  tr.act = .evaluate t ∧ pred tr.pre.data = b

/-! ## One wait operation -/

/-- A loop head ends a predicate wait on a true predicate only, and answers so. -/
theorem answer_of_loopHead {c : WaitCall} (hc : c.HasPredicate) {b : Bool} {reply : WaitReply}
    (h : c.loopHead b = .ends (.ok reply)) : reply.answer = true ∧ b = true := by
  cases c with
  | wait | waitUntil _ | waitFor _ _ => exact hc.elim
  | waitPred | waitUntilPred _ | waitForPred _ _ =>
      cases b with
      | true =>
          cases h
          exact ⟨rfl, rfl⟩
      | false => cases h

/-- After the OS wait a predicate wait that ends normally answers no. -/
theorem answer_of_resume {c : WaitCall} (hc : c.HasPredicate) {cv : ConditionVariable} {rc : Rc}
    {reply : WaitReply} (h : c.resume cv rc = .ends (.ok reply)) : reply.answer = false := by
  have huntil : cv.waitUntilPred false rc = .ends (.ok reply) → reply.answer = false := by
    intro huntil
    unfold ConditionVariable.waitUntilPred at huntil
    split at huntil
    · cases huntil
    · split at huntil
      · cases huntil
        rfl
      · cases huntil
  cases c with
  | wait | waitUntil _ | waitFor _ _ => exact hc.elim
  | waitPred =>
      unfold WaitCall.resume WaitCall.untilForm at h
      cases hwait : cv.wait rc with
      | ok _ => simp [hwait] at h
      | error e => simp [hwait] at h
  | waitUntilPred _ | waitForPred _ _ => exact huntil h

/-! ## Histories -/

/-- The thread has evaluated its predicate and not come back to it yet. -/
def Stage.Decided (cv : ConditionVariable) (c : WaitCall) (pred : σ → Bool) (stage : Stage σ) : Prop :=
  stage = .waiting cv c pred ∨ ∃ notified, stage = .asleep cv c pred notified

theorem decided_of_signal {mCv : Addr} {stage : Stage σ} {cv : ConditionVariable} {c : WaitCall}
    {pred : σ → Bool} (h : (stage.signal mCv).Decided cv c pred) : stage.Decided cv c pred := by
  rcases h with hwaiting | ⟨notified, hasleep⟩
  · exact .inl (signal_eq_waiting.mp hwaiting)
  · cases stage with
    | idle | head _ _ _ | waiting _ _ _ => cases hasleep
    | asleep cv' c' pred' notified' =>
        obtain ⟨rfl, rfl, rfl, -⟩ := Stage.asleep.inj hasleep
        exact .inr ⟨notified', rfl⟩

variable [DecidableEq T] {attr : Attr} {handle : H → Mutex}

theorem not_evaluate_of_decided {s s' : NotifySys T σ} {a : NotifyAction T H σ} {t : T}
    {cv : ConditionVariable} {c : WaitCall} {pred : σ → Bool} (hstep : NotifyStep attr handle s a s')
    (h : (s.stage t).Decided cv c pred) : a ≠ .evaluate t := by
  rintro rfl
  cases hstep with
  | evaluate halive hstage =>
      rw [hstage] at h
      rcases h with hwaiting | ⟨notified, hasleep⟩
      · cases hwaiting
      · cases hasleep

/-- Who has decided had decided before, or has just found its predicate false. -/
theorem decided_of_step {s s' : NotifySys T σ} {a : NotifyAction T H σ} {t : T} {cv : ConditionVariable}
    {c : WaitCall} {pred : σ → Bool} (hstep : NotifyStep attr handle s a s')
    (h : (s'.stage t).Decided cv c pred) :
    (s.stage t).Decided cv c pred ∨ a = .evaluate t ∧ c.loopHead (pred s.data) = .goesOn := by
  have hnot : ¬ (Stage.idle : Stage σ).Decided cv c pred ∧
      ∀ cv' c' pred', ¬ (Stage.head cv' c' pred' : Stage σ).Decided cv c pred := by
    simp [Stage.Decided]
  rcases stage_cases hstep t with
    hcase | hcase | ⟨cv', c', pred', hcase⟩ | ⟨cv', c', pred', hact, hcase, hhead⟩ |
      ⟨cv', c', pred', hwaiting, hcase⟩ | ⟨mCv, hcase⟩
  · exact .inl (hcase ▸ h)
  · exact absurd (hcase ▸ h) hnot.1
  · exact absurd (hcase ▸ h) (hnot.2 _ _ _)
  · rcases hcase ▸ h with hsame | ⟨notified, hasleep⟩
    · obtain ⟨rfl, rfl, rfl⟩ := Stage.waiting.inj hsame
      exact .inr ⟨hact, hhead⟩
    · cases hasleep
  · rcases hcase ▸ h with hsame | ⟨notified, hasleep⟩
    · cases hsame
    · obtain ⟨rfl, rfl, rfl, -⟩ := Stage.asleep.inj hasleep
      exact .inl (.inl hwaiting)
  · exact .inl (decided_of_signal (hcase ▸ h))

/-- Whoever has decided to wait evaluated its predicate to false, and has not evaluated it since. -/
def DecidedSince (trs : List (Transition (NotifySys T σ) (NotifyAction T H σ))) (s : NotifySys T σ) : Prop :=
  ∀ t cv c pred, (s.stage t).Decided cv c pred → c.HasPredicate →
    Since (EvaluatesTo t pred false) (fun tr => tr.act ≠ .evaluate t) trs

theorem decidedSince_step {trs : List (Transition (NotifySys T σ) (NotifyAction T H σ))}
    {s s' : NotifySys T σ} {a : NotifyAction T H σ} (hinv : DecidedSince trs s)
    (hstep : NotifyStep attr handle s a s') : DecidedSince (trs ++ [⟨s, a, s'⟩]) s' := by
  intro t cv c pred hdecided hc
  rcases decided_of_step hstep hdecided with hbefore | ⟨hact, hhead⟩
  · exact (hinv t cv c pred hbefore hc).later (not_evaluate_of_decided hstep hbefore)
  · exact .now ⟨hact, WaitCall.eq_false_of_goesOn hc hhead⟩

theorem decidedSince_of_run {data : σ} {trs : List (Transition (NotifySys T σ) (NotifyAction T H σ))}
    {s : NotifySys T σ} (hrun : Run (NotifyStep attr handle) (NotifySys.init data) trs s) :
    DecidedSince trs s := by
  refine hrun.history_invariant (fun _ _ => True) (fun _ _ _ _ hinv _ hstep => decidedSince_step hinv hstep)
    (fun _ _ => trivial) ?_
  rintro t cv c pred (hwaiting | ⟨notified, hasleep⟩)
  · cases hwaiting
  · cases hasleep

/-! ## The answer -/

/-- An evaluation that ends a wait leaves the mutex and the state to its caller. -/
theorem ends_of_evaluate {s s' : NotifySys T σ} {t : T} {cv : ConditionVariable} {c : WaitCall}
    {pred : σ → Bool} (hinv : WaitsBacked s.toWaitSys) (hstage : s.stage t = .head cv c pred)
    (hstep : NotifyStep attr handle s (.evaluate t) s') :
    0 < s'.mtx.holds t ∧ s'.data = s.data := by
  have hphase : s.toWaitSys.phase t = .holding cv c := congrArg Stage.phase hstage
  have hheld : 0 < s.mtx.holds t := Nat.lt_of_lt_of_le (hinv.holding t cv c hphase) (hinv.backed.le_holds t)
  cases hstep with
  | evaluate halive hstage' => exact ⟨hheld, rfl⟩

/-- **Answers of predicate waits.**  In every interleaving with sound wakes, a predicate wait that ends
normally answers with the value its predicate had when the wait evaluated it for the last time.  If that is
true, then its caller holds the mutex, and the predicate stays true for as long as the caller keeps the mutex
and does not write itself. -/
theorem predicate_answers {data : σ} {trs : List (Transition (NotifySys T σ) (NotifyAction T H σ))}
    {s s₁ : NotifySys T σ} (hrun : Run (NotifyStep attr handle) (NotifySys.init data) trs s)
    (hsound : ∀ tr ∈ trs, tr.pre.WakesSound tr.act) {a : NotifyAction T H σ}
    (hstep : NotifyStep attr handle s a s₁) {t : T} {cv : ConditionVariable} {c : WaitCall} {pred : σ → Bool}
    {reply : WaitReply} (hends : s.Ends a t cv c pred (.ok reply)) (hc : c.HasPredicate) :
    Since (EvaluatesTo t pred reply.answer) (fun tr => tr.act ≠ .evaluate t) (trs ++ [⟨s, a, s₁⟩]) ∧
      (reply.answer = true → 0 < s₁.mtx.holds t ∧
        ∀ trs' s', Run (NotifyStep attr handle) s₁ trs' s' → (∀ tr ∈ trs', tr.pre.WakesSound tr.act) →
          (∀ tr ∈ trs', 0 < tr.pre.reported t) → (∀ tr ∈ trs', ∀ f, tr.act ≠ .write t f) →
            pred s'.data = true) := by
  have hbacked : WaitsBacked s.toWaitSys := backed_of_notifyRun hrun hsound
  -- after the OS wait: the answer is no, and so was the evaluation before it
  have hresumed : ∀ rc, (s.stage t).Decided cv c pred → c.resume cv rc = .ends (.ok reply) →
      Since (EvaluatesTo t pred reply.answer) (fun tr => tr.act ≠ .evaluate t) (trs ++ [⟨s, a, s₁⟩]) ∧
        reply.answer = false := by
    intro rc hdecided hresume
    have hno := answer_of_resume hc hresume
    refine ⟨?_, hno⟩
    rw [hno]
    exact (decidedSince_of_run hrun t cv c pred hdecided hc).later (not_evaluate_of_decided hstep hdecided)
  rcases hends with ⟨rfl, hstage, hhead⟩ | ⟨rc, rfl, hstage, hresume⟩ | ⟨rc, notified, rfl, hstage, hresume⟩
  · obtain ⟨hyes, htrue⟩ := answer_of_loopHead hc hhead
    obtain ⟨hheld, hdata⟩ := ends_of_evaluate hbacked hstage hstep
    rw [hyes]
    refine ⟨.now ⟨rfl, htrue⟩, fun _ => ⟨hheld, fun trs' s' hrun' hsound' hreported hquiet => ?_⟩⟩
    have hsound₁ : s.WakesSound (.evaluate t : NotifyAction T H σ) := trivial
    have hbacked' := backed_notifyStep hbacked hsound₁ hstep
    rw [data_of_kept_report hrun' hbacked' hsound' hreported hquiet, hdata]
    exact htrue
  · obtain ⟨hsince, hno⟩ := hresumed rc (.inl hstage) hresume
    exact ⟨hsince, fun hyes => absurd (hyes.symm.trans hno) (by decide)⟩
  · obtain ⟨hsince, hno⟩ := hresumed rc (.inr ⟨notified, hstage⟩) hresume
    exact ⟨hsince, fun hyes => absurd (hyes.symm.trans hno) (by decide)⟩

/-- The predicate is true at once, and another thread notifies before the caller goes on. -/
theorem predicate_answers_at_once :
    ∃ (s s₁ s' : NotifySys Nat Bool) (cv : ConditionVariable),
      NotifyStep Mutex.shmBehaviour shmHandle s (.evaluate 0 : NotifyAction Nat Origin Bool) s₁ ∧
        s₁.stage 0 = .idle ∧ 0 < s₁.mtx.holds 0 ∧
        NotifyStep Mutex.shmBehaviour shmHandle s₁ (.notifyAll 1 cv : NotifyAction Nat Origin Bool) s' ∧
        id s'.data = true := by
  let cv := ConditionVariable.named "cv" none (.caller 1)
  let s : NotifySys Nat Bool := ⟨⟨⟨.held 0 0 true, Session.note (fun _ => 0) 0 true⟩, fun _ => true⟩, true,
    update (fun _ => .idle) 0 (.head cv .waitPred id)⟩
  have hrun : Run (NotifyStep Mutex.shmBehaviour shmHandle) (NotifySys.init true) _ s :=
    .cons (notifyStep_lock rfl rfl rfl) (.single (.enter rfl rfl (note_pos _ 0)))
  have hhead : s.stage 0 = .head cv .waitPred id := rfl
  have hstep : NotifyStep Mutex.shmBehaviour shmHandle s (.evaluate 0) _ := .evaluate rfl hhead
  have hnotify : NotifyStep Mutex.shmBehaviour shmHandle _ (.notifyAll 1 cv : NotifyAction Nat Origin Bool) _ :=
    .notifyAll (s := ⟨s.toSys, true, update s.stage 0 .idle⟩) rfl
  have hends : s.Ends (.evaluate 0 : NotifyAction Nat Origin Bool) 0 cv .waitPred id (.ok .void) :=
    .inl ⟨rfl, hhead, rfl⟩
  obtain ⟨hheld, hstays⟩ :=
    (predicate_answers hrun (by simp [NotifySys.WakesSound]) hstep hends trivial).2 rfl
  exact ⟨s, _, _, cv, hstep, rfl, hheld, hnotify,
    hstays _ _ (.single hnotify) (by simp [NotifySys.WakesSound]) (by simp [s, note_pos]) (by simp)⟩

end AxzlCore

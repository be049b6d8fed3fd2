import AxzlCore.ConditionVariable.Waits

/-!
# What a predicate wait reports

A predicate wait is a loop: it evaluates its predicate, waits, and starts over.  While it waits the mutex is
free and other threads change the shared state, so each wake-up comes with a return code and a new state.

* `WaitCall.overWakes` — a wait operation driven by a sequence of wake-ups.
* `untilReference` — what `std::condition_variable_any` does: a loop on the plain timed wait that evaluates
  the predicate again after a timeout.
* `overWakes_eq_reference_iff` — when the timed loop of the source agrees with the reference.
* `predicate_waits_report_iff` — the operations report the predicate exactly when the wait does not time out
  with the predicate true.
-/

set_option autoImplicit false

namespace AxzlCore

open Errno

variable {σ : Type}

namespace WaitCall

/-- The operation run over the wake-ups in front of it, from the shared state `s`: how it ends and in which
state, or nothing while it is still waiting. -/
def overWakes (c : WaitCall) (cv : ConditionVariable) (pred : σ → Bool) :
    σ → List (Rc × σ) → Option (Except SystemError WaitReply × σ)
  | s, [] =>
      match c.loopHead (pred s) with
      | .ends r => some (r, s)
      | .goesOn => none
  | s, (rc, s') :: wakes =>
      match c.loopHead (pred s) with
      | .ends r => some (r, s)
      | .goesOn =>
          match c.resume cv rc with
          | .ends r => some (r, s')
          | .goesOn => overWakes c cv pred s' wakes

/-- The waits with a predicate. -/
def HasPredicate : WaitCall → Prop
  | .waitPred | .waitUntilPred _ | .waitForPred _ _ => True
  | _ => False

/-- Those of them with a deadline. -/
def TimedPredicate : WaitCall → Prop
  | .waitUntilPred _ | .waitForPred _ _ => True
  | _ => False

end WaitCall

/-- `while (!pred()) if (wait_until(lock, tp) == timeout) return pred(); return true;`, on the plain timed
wait of the class. -/
def untilReference (cv : ConditionVariable) (pred : σ → Bool) :
    σ → List (Rc × σ) → Option (Except SystemError WaitReply × σ)
  | s, [] => if pred s then some (.ok (.bool true), s) else none
  | s, (rc, s') :: wakes =>
      if pred s then
        some (.ok (.bool true), s)
      else
        match cv.waitUntil rc with
        | .ok .timeout => some (.ok (.bool (pred s')), s')
        | .ok .noTimeout => untilReference cv pred s' wakes
        | .error e => some (.error e, s')

/-- Every OS wait returns success or a timeout. -/
def WakesProperly (wakes : List (Rc × σ)) : Prop := ∀ wake ∈ wakes, wake.1 = 0 ∨ wake.1 = ETIMEDOUT

/-- The operation reports the predicate as it is when it returns, and agrees with the reference where it has
a deadline. -/
structure ReportsPredicate (c : WaitCall) (cv : ConditionVariable) (pred : σ → Bool) (s : σ)
    (wakes : List (Rc × σ)) : Prop where
  /-- `Wait(lock, pred)` returns only where the predicate holds. -/
  holds : ∀ s', c.overWakes cv pred s wakes = some (.ok .void, s') → pred s' = true
  /-- The timed forms return the value of the predicate. -/
  value : ∀ b s', c.overWakes cv pred s wakes = some (.ok (.bool b), s') → b = pred s'
  agrees : c.TimedPredicate → c.overWakes cv pred s wakes = untilReference cv pred s wakes

/-- No wait of the loop times out in a state where the predicate holds. -/
def NoTimeoutOnTrue (pred : σ → Bool) : σ → List (Rc × σ) → Prop
  | _, [] => True
  | s, (rc, s') :: wakes =>
      pred s = true ∨ if rc = ETIMEDOUT then pred s' = false else NoTimeoutOnTrue pred s' wakes

/-! ## The loops, one wake-up at a time -/

section Loop

variable {c : WaitCall} {cv : ConditionVariable} {pred : σ → Bool}

/-- The head of a timed loop ends it when the predicate holds. -/
theorem loopHead_timed (hc : c.TimedPredicate) (b : Bool) :
    c.loopHead b = if b then .ends (.ok (.bool true)) else .goesOn := by
  cases c with
  | waitUntilPred timeoutTp => rfl
  | waitForPred now duration => rfl
  | wait | waitPred | waitUntil | waitFor => exact hc.elim

/-- A timed loop goes on after a wake-up, and ends with false after a timeout. -/
theorem resume_timed (hc : c.TimedPredicate) {rc : Rc} (hrc : rc = 0 ∨ rc = ETIMEDOUT) :
    c.resume cv rc = if rc = ETIMEDOUT then .ends (.ok (.bool false)) else .goesOn := by
  have hresume : c.resume cv rc = cv.waitUntilPred false rc := by
    cases c with
    | waitUntilPred timeoutTp => rfl
    | waitForPred now duration => rfl
    | wait | waitPred | waitUntil | waitFor => exact hc.elim
  rw [hresume]
  rcases hrc with rfl | rfl
  · rfl
  · rfl

theorem overWakes_timed_nil (hc : c.TimedPredicate) (s : σ) :
    c.overWakes cv pred s [] = if pred s then some (.ok (.bool true), s) else none := by
  unfold WaitCall.overWakes
  rw [loopHead_timed hc]
  cases pred s <;> rfl

theorem overWakes_timed_cons (hc : c.TimedPredicate) {rc : Rc} (hrc : rc = 0 ∨ rc = ETIMEDOUT) (s s' : σ)
    (wakes : List (Rc × σ)) :
    c.overWakes cv pred s ((rc, s') :: wakes) =
      if pred s then some (.ok (.bool true), s)
      else if rc = ETIMEDOUT then some (.ok (.bool false), s')
      else c.overWakes cv pred s' wakes := by
  rw [WaitCall.overWakes, loopHead_timed hc, resume_timed hc hrc]
  cases pred s with
  | true => rfl
  | false =>
      rcases hrc with rfl | rfl
      · rfl
      · rfl

theorem untilReference_cons {rc : Rc} (hrc : rc = 0 ∨ rc = ETIMEDOUT) (s s' : σ)
    (wakes : List (Rc × σ)) :
    untilReference cv pred s ((rc, s') :: wakes) =
      if pred s then some (.ok (.bool true), s)
      else if rc = ETIMEDOUT then some (.ok (.bool (pred s')), s')
      else untilReference cv pred s' wakes := by
  rw [untilReference]
  rcases hrc with rfl | rfl
  · rfl
  · rfl

end Loop

/-! ## Timed waits -/

section Timed

variable {c : WaitCall} {cv : ConditionVariable} {pred : σ → Bool} {s : σ} {wakes : List (Rc × σ)}

/-- The reference reports the predicate as it is when it returns. -/
theorem untilReference_value (hwakes : WakesProperly wakes) {r : Except SystemError WaitReply} {s' : σ}
    (h : untilReference cv pred s wakes = some (r, s')) : r = .ok (.bool (pred s')) := by
  induction wakes generalizing s with
  | nil =>
      rw [untilReference] at h
      split at h
      · next htrue =>
          cases h
          rw [htrue]
      · cases h
  | cons wake wakes ih =>
      obtain ⟨rc, s₁⟩ := wake
      rw [untilReference_cons (hwakes _ List.mem_cons_self)] at h
      split at h
      · next htrue =>
          cases h
          rw [htrue]
      · split at h
        · cases h
          rfl
        · exact ih (fun wake hwake => hwakes wake (List.mem_cons_of_mem _ hwake)) h

/-- The two loops agree exactly when no timeout meets the predicate true. -/
theorem overWakes_eq_reference_iff (hc : c.TimedPredicate) (hwakes : WakesProperly wakes) :
    c.overWakes cv pred s wakes = untilReference cv pred s wakes ↔ NoTimeoutOnTrue pred s wakes := by
  induction wakes generalizing s with
  | nil => exact iff_of_true (overWakes_timed_nil hc s) trivial
  | cons wake wakes ih =>
      obtain ⟨rc, s'⟩ := wake
      have hrc := hwakes (rc, s') List.mem_cons_self
      rw [overWakes_timed_cons hc hrc, untilReference_cons hrc, NoTimeoutOnTrue]
      cases hpred : pred s with
      | true => simp
      | false =>
          by_cases htimeout : rc = ETIMEDOUT
          · -- the wait ends here: the source says false, the reference asks again
            simp only [Bool.false_eq_true, if_false, if_pos htimeout, false_or]
            cases pred s' with
            | true => simp
            | false => simp
          · simp only [Bool.false_eq_true, if_false, htimeout, false_or]
            exact ih fun wake hwake => hwakes wake (List.mem_cons_of_mem _ hwake)

end Timed

/-! ## Waits without a deadline -/

/-- `Wait(lock, pred)` returns only where the predicate holds, whatever the waits return. -/
theorem overWakes_waitPred {cv : ConditionVariable} {pred : σ → Bool} {s s' : σ}
    {wakes : List (Rc × σ)} {reply : WaitReply}
    (h : WaitCall.waitPred.overWakes cv pred s wakes = some (.ok reply, s')) :
    reply = .void ∧ pred s' = true := by
  have hhead : ∀ s₁ : σ, WaitCall.waitPred.loopHead (pred s₁) =
      if pred s₁ then .ends (.ok .void) else .goesOn := fun _ => rfl
  induction wakes generalizing s with
  | nil =>
      rw [WaitCall.overWakes, hhead] at h
      cases hpred : pred s with
      | true =>
          rw [hpred] at h
          cases h
          exact ⟨rfl, hpred⟩
      | false =>
          rw [hpred] at h
          cases h
  | cons wake wakes ih =>
      obtain ⟨rc, s₁⟩ := wake
      rw [WaitCall.overWakes, hhead] at h
      cases hpred : pred s with
      | true =>
          rw [hpred] at h
          cases h
          exact ⟨rfl, hpred⟩
      | false =>
          rw [hpred] at h
          -- the loop goes on after a wake-up and throws on every other code
          by_cases hrc : rc = 0
          · subst hrc
            exact ih h
          · have hresume : WaitCall.waitPred.resume cv rc =
                .ends (.error (throwSystemError cv.mName "Wait" rc "pthread_cond_wait")) := by
              simp [WaitCall.resume, WaitCall.untilForm, ConditionVariable.wait, hrc]
            rw [hresume] at h
            cases h

/-- **Exactly when predicate waits report the predicate.**  Over every sequence of wake-ups, `Wait` always does;
a timed wait does if and only if it does not time out in a state where the predicate holds. -/
theorem predicate_waits_report_iff {c : WaitCall} (hc : c.HasPredicate) (cv : ConditionVariable)
    (pred : σ → Bool) (s : σ) {wakes : List (Rc × σ)} (hwakes : WakesProperly wakes) :
    ReportsPredicate c cv pred s wakes ↔ (c.TimedPredicate → NoTimeoutOnTrue pred s wakes) := by
  constructor
  · intro hreports htimed
    exact (overWakes_eq_reference_iff htimed hwakes).mp (hreports.agrees htimed)
  · intro hcond
    have htimed : c.TimedPredicate → ReportsPredicate c cv pred s wakes := by
      intro htimed
      have hagrees : c.overWakes cv pred s wakes = untilReference cv pred s wakes :=
        (overWakes_eq_reference_iff htimed hwakes).mpr (hcond htimed)
      refine ⟨fun s' h => ?_, fun b s' h => ?_, fun _ => hagrees⟩
      · rw [hagrees] at h
        cases untilReference_value hwakes h
      · rw [hagrees] at h
        cases untilReference_value hwakes h
        rfl
    cases c with
    | waitPred =>
        refine ⟨fun s' h => (overWakes_waitPred h).2, fun b s' h => ?_, fun h => h.elim⟩
        cases (overWakes_waitPred h).1
    | waitUntilPred timeoutTp => exact htimed trivial
    | waitForPred now duration => exact htimed trivial
    | wait | waitUntil | waitFor => exact hc.elim

/-- A wait that is woken by a notification, with the predicate true by then. -/
theorem predicate_wait_notified :
    ReportsPredicate (.waitForPred 0 ⟨5, .second⟩) (.named "cv" none (.heap 0)) id false [(0, true)] :=
  (predicate_waits_report_iff (by exact trivial) _ _ _ (by simp [WakesProperly])).mpr
    fun _ => .inr (by simp [NoTimeoutOnTrue, ETIMEDOUT])

/-- A wait that times out just as the predicate becomes true says false. -/
theorem timeout_hides_true_predicate :
    (WaitCall.waitUntilPred (steadyNow 0)).overWakes (.named "cv" none (.heap 0)) id false
        [(ETIMEDOUT, true)] = some (.ok (.bool false), true) ∧
      untilReference (.named "cv" none (.heap 0)) id false [(ETIMEDOUT, true)] =
        some (.ok (.bool true), true) ∧
      ¬ ReportsPredicate (.waitUntilPred (steadyNow 0)) (.named "cv" none (.heap 0)) id false
        [(ETIMEDOUT, true)] := by
  refine ⟨rfl, rfl, fun hreports => ?_⟩
  cases hreports.value false true rfl

end AxzlCore

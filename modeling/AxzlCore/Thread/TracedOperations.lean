import AxzlCore.Library.FailureTrace
import AxzlCore.Thread.Operations

/-!
# The thread operations, with the calls that failed

`Detach`, `UpdatePriority` and `PostThreadEntryInit` once more, with every OS call written as one.  The
`pthread_*` calls return their error number; `setpriority` returns -1 and leaves it in `errno`.

* `ThreadCall.erases_performTraced` — with the history forgotten, the operations are those of the class.
* `ThreadCall.reportsLast_iff` — when the exception of an operation has the number of the call that failed
  last.
-/

set_option autoImplicit false

namespace AxzlCore

open Errno FailureTrace Outcomes Outcomes.Comp

/-- An operation on one object that records the calls that failed. -/
abbrev TracedM (O : Type) := Comp (Traced (ThreadState O)) SystemError

variable {O : Type}

namespace Thread

/-! ## The operations -/

/-- `Thread::Detach`; `pthread_detach` returns `rc`. -/
def detachTraced (rc : Rc) : TracedM O Unit := do
  let obj := (← silent (ofEState get)).obj
  if obj.mJoin then
    osCall (fun _ => rc) (ofEState (useTid (.detach obj.mTid)))
    silent (ofEState (failOn rc "Detach" "pthread_detach"))
    silent (ofEState (modify fun s =>
      { s with obj := s.obj.released, threads := detachThread obj s.threads }))

/-- The two ways `UpdatePriority` changes a priority, by the parameters the OS reported. -/
def applyPriorityTraced (os : PriorityResults) (caller mTid : Tid) (prio : Int) (sps : SchedulerParams) :
    TracedM O Unit := do
  if sps.isRt then
    let rc ← osCall id (ofEState (pthreadSetschedprio os.setschedprio mTid prio))
    silent (ofEState (failOn rc "UpdatePriority" "pthread_setschedprio"))
  else
    let rc ← osCall (fun _ => os.setpriority.errno) (ofEState (setpriority os.setpriority caller prio))
    -- `rc` is -1 here, not the number in `errno`
    silent (ofEState (failOn rc "UpdatePriority" "setpriority"))

/-- `Thread::UpdatePriority`, called by the thread `caller`. -/
def updatePriorityTraced (os : PriorityResults) (caller : Tid) (prio : Int) : TracedM O Unit := do
  let mTid := (← silent (ofEState get)).obj.mTid
  let (rc, sps) ← osCall Prod.fst (ofEState (pthreadGetschedparam os.getschedparam mTid))
  silent (ofEState (failOn rc "UpdatePriority" "pthread_getschedparam"))
  applyPriorityTraced os caller mTid prio sps
  silent (ofEState (modify fun s => { s with obj := s.obj.setSchedPrio prio }))

/-- The nice value of `PostThreadEntryInit`, set by the new thread `self` for itself. -/
def applyNiceTraced (nice : Syscall) (self : Tid) : Option SchedulerParams → TracedM O Unit
  | some sched => do
      if !sched.isRt then
        let rc ← osCall (fun _ => nice.errno) (ofEState (setpriority nice self sched.prio))
        silent (ofEState (failOn rc "PostThreadEntryInit" "setpriority"))
  | none => pure ()

/-- `Thread::PostThreadEntryInit`, run by the new thread `self`; the result of `pthread_setname_np` is not
looked at. -/
def postThreadEntryInitTraced (nice : Syscall) (self : Tid) : TracedM O Unit := do
  applyNiceTraced nice self (← silent (ofEState get)).obj.mSched
  silent (ofEState (modify fun s => { s with
    threads := changed s.threads self fun th => { th with appliedName := some (osName s.obj.mName) } }))

/-! ## With the history forgotten -/

/-- Instrumented code in sequence. -/
theorem erases_bind {α β : Type} {x : TracedM O α} {y : ThreadM O α} {f : α → TracedM O β}
    {g : α → ThreadM O β} (hx : Erases x (ofEState y)) (hf : ∀ a, Erases (f a) (ofEState (g a))) :
    Erases (x >>= f) (ofEState (y >>= g)) := by
  rw [ofEState_bind]
  exact hx.bind hf

theorem erases_unit : Erases (pure () : TracedM O Unit) (ofEState (pure ())) := erases_pure ()

theorem erases_ite {p : Prop} [Decidable p] {x x' : TracedM O Unit} {y y' : ThreadM O Unit}
    (hx : Erases x (ofEState y)) (hx' : Erases x' (ofEState y')) :
    Erases (if p then x else x') (ofEState (if p then y else y')) := by
  split
  · exact hx
  · exact hx'

theorem erases_detach (rc : Rc) : Erases (detachTraced rc : TracedM O Unit) (ofEState (detach rc)) :=
  erases_bind (erases_silent _) fun _ => erases_ite
    (erases_bind (erases_osCall _ _) fun _ => erases_bind (erases_silent _) fun _ => erases_silent _)
    erases_unit

theorem erases_applyPriority (os : PriorityResults) (caller mTid : Tid) (prio : Int)
    (sps : SchedulerParams) :
    Erases (applyPriorityTraced os caller mTid prio sps : TracedM O Unit)
      (ofEState (applyPriority os caller mTid prio sps)) :=
  erases_ite (erases_bind (erases_osCall _ _) fun _ => erases_silent _)
    (erases_bind (erases_osCall _ _) fun _ => erases_silent _)

theorem erases_updatePriority (os : PriorityResults) (caller : Tid) (prio : Int) :
    Erases (updatePriorityTraced os caller prio : TracedM O Unit)
      (ofEState (updatePriority os caller prio)) :=
  erases_bind (erases_silent _) fun _ => erases_bind (erases_osCall _ _) fun _ =>
    erases_bind (erases_silent _) fun _ => erases_bind (erases_applyPriority _ _ _ _ _) fun _ =>
      erases_silent _

theorem erases_applyNice (nice : Syscall) (self : Tid) (mSched : Option SchedulerParams) :
    Erases (applyNiceTraced nice self mSched : TracedM O Unit) (ofEState (applyNice nice self mSched)) := by
  cases mSched with
  | none => exact erases_unit
  | some sched =>
      exact erases_ite (erases_bind (erases_osCall _ _) fun _ => erases_silent _) erases_unit

theorem erases_postThreadEntryInit (nice : Syscall) (self : Tid) :
    Erases (postThreadEntryInitTraced nice self : TracedM O Unit)
      (ofEState (postThreadEntryInit nice self)) :=
  erases_bind (erases_silent _) fun _ => erases_bind (erases_applyNice _ _ _) fun _ => erases_silent _

/-! ## The number reported -/

section Reports

variable {s : ThreadState O} {failed : List Rc}

/-- A test of a result: it throws with the code it tested. -/
theorem reportsLast_failOn_bind {α : Type} (rc : Rc) (loc what : String) (f : Unit → TracedM O α) :
    ReportsLast SystemError.code (silent (ofEState (failOn rc loc what)) >>= f) ⟨s, failed⟩ ↔
      (rc ≠ 0 → failed.head? = some rc) ∧ (rc = 0 → ReportsLast SystemError.code (f ()) ⟨s, failed⟩) := by
  have heq := failOn_eq rc loc what s
  by_cases hrc : rc = 0
  · rw [if_neg (not_not.mpr hrc)] at heq
    rw [reportsLast_silent_of_ok heq]
    simp [hrc]
  · rw [if_pos hrc] at heq
    rw [reportsLast_silent_of_error heq]
    simp [hrc]

/-- The same at the end of an operation. -/
theorem reportsLast_failOn (rc : Rc) (loc what : String) :
    ReportsLast SystemError.code (silent (ofEState (failOn rc loc what)) : TracedM O Unit) ⟨s, failed⟩ ↔
      (rc ≠ 0 → failed.head? = some rc) := by
  rw [← reportsLast_bind_pure (g := id), reportsLast_failOn_bind]
  exact and_iff_left fun _ => reportsLast_pure _

theorem reportsLast_detach (rc : Rc) :
    ReportsLast SystemError.code (detachTraced rc : TracedM O Unit) ⟨s, failed⟩ := by
  have huse : useTid (.detach s.obj.mTid) s = .ok () { s with uses := .detach s.obj.mTid :: s.uses } := rfl
  unfold detachTraced
  rw [reportsLast_get]
  dsimp only
  split
  · rw [reportsLast_osCall_of_ok huse, reportsLast_failOn_bind]
    refine ⟨fun hrc => head_note hrc _, fun _ => ?_⟩
    intro e t' hmem
    exact (raisesOnly_silent_modify (P := fun _ => False) _ _ _ _ hmem).elim
  · exact reportsLast_pure _

/-- `setpriority` itself throws nothing. -/
theorem setpriority_ok (call : Syscall) (caller : Tid) (nice : Int) :
    ∃ s₁, setpriority call caller nice s = .ok call.value s₁ := by
  unfold AxzlCore.setpriority
  cases call with
  | done => exact ⟨_, rfl⟩
  | failed errno => exact ⟨_, rfl⟩

/-- Nor does `pthread_setschedprio`. -/
theorem pthreadSetschedprio_ok (rc : Rc) (tid : Tid) (prio : Int) :
    ∃ s₁, pthreadSetschedprio rc tid prio s = .ok rc s₁ := by
  unfold pthreadSetschedprio
  by_cases hrc : rc = 0
  · rw [hrc]
    exact ⟨_, rfl⟩
  · rw [if_neg hrc]
    exact ⟨_, rfl⟩

/-- `setpriority` and the test of its result: the exception has the code -1. -/
theorem reportsLast_setpriority_iff {call : Syscall} (hcall : call.NumberPositive) (caller : Tid)
    (nice : Int) (loc : String) :
    ReportsLast SystemError.code (osCall (fun _ => call.errno)
        (ofEState (setpriority call caller nice)) >>= fun rc =>
      silent (ofEState (failOn rc loc "setpriority")) : TracedM O Unit) ⟨s, failed⟩ ↔ call = .done := by
  obtain ⟨s₁, hok⟩ := setpriority_ok (s := s) call caller nice
  rw [reportsLast_osCall_of_ok hok, reportsLast_failOn]
  cases call with
  | done => exact iff_of_true (fun hne => absurd rfl hne) rfl
  | failed errno =>
      have hpos := hcall errno rfl
      have hne : (Syscall.failed errno).errno ≠ 0 := hpos.ne'
      refine iff_of_false (fun hreports => ?_) (by simp)
      have hvalue : (Syscall.failed errno).value ≠ 0 := fun h => by cases h
      have hhead := hreports hvalue
      rw [head_note hne] at hhead
      have hnumber : errno = -1 := Option.some.inj hhead
      rw [hnumber] at hpos
      exact absurd hpos (by decide)

theorem reportsLast_applyPriority_iff {os : PriorityResults} (hos : os.setpriority.NumberPositive)
    (caller mTid : Tid) (prio : Int) (sps : SchedulerParams) :
    ReportsLast SystemError.code (applyPriorityTraced os caller mTid prio sps : TracedM O Unit)
        ⟨s, failed⟩ ↔ (sps.isRt = false → os.setpriority = .done) := by
  unfold applyPriorityTraced
  obtain ⟨s₁, hset⟩ := pthreadSetschedprio_ok (s := s) os.setschedprio mTid prio
  split
  · next hrt =>
      rw [reportsLast_osCall_of_ok hset, reportsLast_failOn]
      exact iff_of_true (fun hrc => head_note hrc _) fun hnot => absurd hrt (by simp [hnot])
  · next hrt =>
      rw [reportsLast_setpriority_iff hos]
      simp [hrt]

theorem reportsLast_updatePriority_iff {os : PriorityResults} (hos : os.setpriority.NumberPositive)
    (caller : Tid) (prio : Int) :
    ReportsLast SystemError.code (updatePriorityTraced os caller prio : TracedM O Unit) ⟨s, failed⟩ ↔
      ∀ th, s.threads s.obj.mTid = some th → os.getschedparam = 0 → th.isRt = false →
        os.setpriority = .done := by
  have hget : pthreadGetschedparam os.getschedparam s.obj.mTid s =
      .ok (if (s.threads s.obj.mTid).isSome then os.getschedparam else ESRCH,
          (s.threads s.obj.mTid).elim ⟨.fair, 0⟩ fun th => ⟨th.tuning.policy, th.tuning.priority⟩)
        { s with uses := .getschedparam s.obj.mTid :: s.uses } := rfl
  unfold updatePriorityTraced
  rw [reportsLast_get, reportsLast_osCall_of_ok hget]
  dsimp only
  rw [reportsLast_failOn_bind, and_iff_right fun hrc => head_note hrc _,
    reportsLast_bind_iff fun _ => raisesOnly_silent_modify _, reportsLast_applyPriority_iff hos]
  cases hth : s.threads s.obj.mTid with
  | none => simp [ESRCH]
  | some th => simp [OsThread.isRt, SchedulerParams.isRt]

theorem reportsLast_postThreadEntryInit_iff {nice : Syscall} (hnice : nice.NumberPositive) (self : Tid) :
    ReportsLast SystemError.code (postThreadEntryInitTraced nice self : TracedM O Unit) ⟨s, failed⟩ ↔
      ∀ sched, s.obj.mSched = some sched → sched.isRt = false → nice = .done := by
  unfold postThreadEntryInitTraced
  rw [reportsLast_get, reportsLast_bind_iff fun _ => raisesOnly_silent_modify _]
  cases s.obj.mSched with
  | none => exact iff_of_true (reportsLast_pure _) (by simp)
  | some sched =>
      change ReportsLast _ (if (!sched.isRt) = true then _ else _) _ ↔ _
      cases hrt : sched.isRt with
      | true => exact iff_of_true (reportsLast_pure _) (by simp [hrt])
      | false =>
          refine (reportsLast_setpriority_iff hnice _ _ _).trans ?_
          simp [hrt]

end Reports

end Thread

/-! ## The operations together -/

/-- The operations of `Thread` that throw after construction, with what their OS calls return. -/
inductive ThreadCall
  | detach (rc : Rc)
  | updatePriority (os : PriorityResults) (caller : Tid) (prio : Int)
  | postThreadEntryInit (nice : Syscall) (self : Tid)

namespace ThreadCall

def perform : ThreadCall → ThreadM O Unit
  | .detach rc => Thread.detach rc
  | .updatePriority os caller prio => Thread.updatePriority os caller prio
  | .postThreadEntryInit nice self => Thread.postThreadEntryInit nice self

def performTraced : ThreadCall → TracedM O Unit
  | .detach rc => Thread.detachTraced rc
  | .updatePriority os caller prio => Thread.updatePriorityTraced os caller prio
  | .postThreadEntryInit nice self => Thread.postThreadEntryInitTraced nice self

/-- With the history forgotten, a traced operation is that of the class. -/
theorem erases_performTraced (c : ThreadCall) :
    Erases (c.performTraced : TracedM O Unit) (ofEState c.perform) := by
  cases c with
  | detach rc => exact Thread.erases_detach rc
  | updatePriority os caller prio => exact Thread.erases_updatePriority os caller prio
  | postThreadEntryInit nice self => exact Thread.erases_postThreadEntryInit nice self

/-- The error numbers `setpriority` leaves in `errno` are positive. -/
def NumbersPositive : ThreadCall → Prop
  | .detach _ => True
  | .updatePriority os _ _ => os.setpriority.NumberPositive
  | .postThreadEntryInit nice _ => nice.NumberPositive

/-- Where the operation comes to call `setpriority`, the call succeeds. -/
def SetpriorityDone (s : ThreadState O) : ThreadCall → Prop
  | .detach _ => True
  | .updatePriority os _ _ => ∀ th, s.threads s.obj.mTid = some th → os.getschedparam = 0 →
      th.isRt = false → os.setpriority = .done
  | .postThreadEntryInit nice _ => ∀ sched, s.obj.mSched = some sched → sched.isRt = false → nice = .done

/-- **Exactly when an operation reports the number of the call that failed last**: when it is not
`setpriority` that fails. -/
theorem reportsLast_iff {c : ThreadCall} (hc : c.NumbersPositive) (s : ThreadState O) :
    ReportsLast SystemError.code (c.performTraced : TracedM O Unit) ⟨s, []⟩ ↔ c.SetpriorityDone s := by
  cases c with
  | detach rc => exact iff_of_true (Thread.reportsLast_detach rc) trivial
  | updatePriority os caller prio => exact Thread.reportsLast_updatePriority_iff hc caller prio
  | postThreadEntryInit nice self => exact Thread.reportsLast_postThreadEntryInit_iff hc self

end ThreadCall

end AxzlCore

import AxzlCore.Log.Log
import AxzlCore.Thread.World

/-!
# `Join`, `Detach`, `UpdatePriority` and `PostThreadEntryInit`

The operations of `Thread` that make OS calls, with the return codes of these calls chosen by the
environment.  An operation works on its object and on the threads of the process; next to them the state
records which thread ids were given to the pthread library (`PthreadCall`) and through which log pointers
the operation logged.  What was done before an exception stays done.

* `join_eq`, `detach_eq` — what the two releasing operations do.
* `updatePriority_cases` — how a call of `UpdatePriority` ends, and what it did.
* `postThreadEntryInit_error` — the only way in which `PostThreadEntryInit` throws.
-/

set_option autoImplicit false

namespace AxzlCore

open Errno Function

/-- The calls of the pthread library that are given the id of a thread. -/
inductive PthreadCall
  | join (tid : Tid)
  | detach (tid : Tid)
  | getschedparam (tid : Tid)
  | setschedprio (tid : Tid)
  deriving DecidableEq, Repr

/-- The thread a call is about. -/
def PthreadCall.tid : PthreadCall → Tid
  | .join tid | .detach tid | .getschedparam tid | .setschedprio tid => tid

/-- What an operation works on. -/
structure ThreadState (O : Type) where
  obj : Thread
  threads : Tid → Option (OsThread O)
  /-- The calls made with a thread id, latest first. -/
  uses : List PthreadCall
  /-- The messages logged, by the log pointer dereferenced for them, latest first. -/
  logged : List (LogPtr × Severity)

/-- An operation on one object. -/
abbrev ThreadM (O : Type) := EStateM SystemError (ThreadState O)

/-- The threads after one of them was changed, if it exists. -/
def changed {O : Type} (threads : Tid → Option (OsThread O)) (tid : Tid)
    (f : OsThread O → OsThread O) : Tid → Option (OsThread O) :=
  update threads tid ((threads tid).map f)

/-- The nice value the kernel keeps for a requested one. -/
def clampNice (nice : Int) : Int := max Thread.LINUX_MIN_NICE (min nice Thread.LINUX_MAX_NICE)

namespace OsThread

variable {O : Type}

def setPriority (prio : Int) (th : OsThread O) : OsThread O :=
  { th with tuning := { th.tuning with priority := prio } }

def setNice (nice : Int) (th : OsThread O) : OsThread O :=
  { th with tuning := { th.tuning with nice := clampNice nice } }

/-- The scheduling policy is a real-time one. -/
def isRt (th : OsThread O) : Bool := th.tuning.policy.isRt

end OsThread

/-- What the OS calls of `UpdatePriority` return. -/
structure PriorityResults where
  getschedparam : Rc
  setschedprio : Rc
  setpriority : Syscall
  deriving DecidableEq, Repr

variable {O : Type}

/-! ## OS calls, and logging -/

def useTid (call : PthreadCall) : ThreadM O Unit :=
  modify fun s => { s with uses := call :: s.uses }

/-- `mLog->...`. -/
def logAt (severity : Severity) : ThreadM O Unit :=
  modify fun s => { s with logged := (s.obj.mLog, severity) :: s.logged }

/-- `if (rc != 0) ThrowSystemError(mName, mLog, __func__, rc, what)`; `Throw` logs before it throws. -/
def failOn (rc : Rc) (loc what : String) : ThreadM O Unit := do
  if rc ≠ 0 then
    logAt .critical
    throw (throwSystemError (← get).obj.mName loc rc what)

/-- `pthread_getschedparam`.  An id without a thread is answered by an error, at best. -/
def pthreadGetschedparam (rc : Rc) (tid : Tid) : ThreadM O (Rc × SchedulerParams) := do
  useTid (.getschedparam tid)
  let th := (← get).threads tid
  return (if th.isSome then rc else ESRCH,
    th.elim ⟨.fair, 0⟩ fun th => ⟨th.tuning.policy, th.tuning.priority⟩)

/-- `pthread_setschedprio`. -/
def pthreadSetschedprio (rc : Rc) (tid : Tid) (prio : Int) : ThreadM O Rc := do
  useTid (.setschedprio tid)
  if rc = 0 then
    modify fun s => { s with threads := changed s.threads tid (OsThread.setPriority prio) }
  return rc

/-- `setpriority(PRIO_PROCESS, 0, nice)`: the nice value of the calling thread. -/
def setpriority (call : Syscall) (caller : Tid) (nice : Int) : ThreadM O Rc := do
  if call = .done then
    modify fun s => { s with threads := changed s.threads caller (OsThread.setNice nice) }
  return call.value

namespace Thread

/-! ## Operations of the class -/

/-- `Thread::Join`; `pthread_join` returns `rc`. -/
def join (rc : Rc) : ThreadM O Unit := do
  let obj := (← get).obj
  if obj.mJoin then
    logAt .debug
    useTid (.join obj.mTid)
    -- a failure is logged, and the flag is cleared all the same
    logAt (if rc ≠ 0 then .error else .debug)
    modify fun s => { s with obj := s.obj.released }

/-- `Thread::Detach`; `pthread_detach` returns `rc`. -/
def detach (rc : Rc) : ThreadM O Unit := do
  let obj := (← get).obj
  if obj.mJoin then
    useTid (.detach obj.mTid)
    failOn rc "Detach" "pthread_detach"
    modify fun s => { s with obj := s.obj.released, threads := detachThread obj s.threads }

/-- `operator=(Thread&& from)` for another object `src`, as far as the target is concerned; the
`pthread_join` of its own thread returns `rc`. -/
def assignFrom (rc : Rc) (src : Thread) : ThreadM O Unit := do
  join rc
  modify fun s => { s with obj := s.obj.moveAssign src }

/-- `Thread::~Thread`. -/
def destruct (rc : Rc) : ThreadM O Unit := do
  join rc
  if (← get).obj.mLog.isSome then
    logAt .trace

/-- `mSched->prio = prio`, if there is an `mSched`. -/
def setSchedPrio (prio : Int) (obj : Thread) : Thread :=
  { obj with mSched := obj.mSched.map fun sched => { sched with prio := prio } }

/-- The two ways `UpdatePriority` changes a priority, by the parameters the OS reported. -/
def applyPriority (os : PriorityResults) (caller mTid : Tid) (prio : Int) (sps : SchedulerParams) :
    ThreadM O Unit := do
  if sps.isRt then
    let rc ← pthreadSetschedprio os.setschedprio mTid prio
    failOn rc "UpdatePriority" "pthread_setschedprio"
  else
    -- not the thread of the object: the nice value of whoever calls
    let rc ← setpriority os.setpriority caller prio
    failOn rc "UpdatePriority" "setpriority"

/-- `Thread::UpdatePriority`, called by the thread `caller`. -/
def updatePriority (os : PriorityResults) (caller : Tid) (prio : Int) : ThreadM O Unit := do
  let mTid := (← get).obj.mTid
  let (rc, sps) ← pthreadGetschedparam os.getschedparam mTid
  failOn rc "UpdatePriority" "pthread_getschedparam"
  applyPriority os caller mTid prio sps
  modify fun s => { s with obj := s.obj.setSchedPrio prio }

/-- The nice value of `PostThreadEntryInit`, set by the new thread `self` for itself. -/
def applyNice (nice : Syscall) (self : Tid) : Option SchedulerParams → ThreadM O Unit
  | some sched => do
      if !sched.isRt then
        let rc ← setpriority nice self sched.prio
        failOn rc "PostThreadEntryInit" "setpriority"
  | none => pure ()

/-- `Thread::PostThreadEntryInit`, run by the new thread `self`. -/
def postThreadEntryInit (nice : Syscall) (self : Tid) : ThreadM O Unit := do
  applyNice nice self (← get).obj.mSched
  modify fun s => { s with
    threads := changed s.threads self fun th => { th with appliedName := some (osName s.obj.mName) } }

end Thread

/-! ## What the operations do -/

/-- `failOn` throws on every code but zero, after it logged. -/
theorem failOn_eq (rc : Rc) (loc what : String) (s : ThreadState O) :
    failOn rc loc what s =
      if rc ≠ 0 then
        .error (throwSystemError s.obj.mName loc rc what)
          { s with logged := (s.obj.mLog, .critical) :: s.logged }
      else .ok () s := by
  unfold failOn
  split
  · rfl
  · rfl

/-- A step of an operation after a part of it that ended normally. -/
theorem bind_of_ok {α β : Type} {x : ThreadM O α} {f : α → ThreadM O β} {s s₁ : ThreadState O} {a : α}
    (hx : x s = .ok a s₁) : (x >>= f) s = f a s₁ := by
  change EStateM.bind x f s = _
  unfold EStateM.bind
  rw [hx]

/-- An exception ends the operation. -/
theorem bind_of_error {α β : Type} {x : ThreadM O α} {f : α → ThreadM O β} {s s₁ : ThreadState O}
    {e : SystemError} (hx : x s = .error e s₁) : (x >>= f) s = .error e s₁ := by
  change EStateM.bind x f s = _
  unfold EStateM.bind
  rw [hx]

theorem useTid_bind {α : Type} (call : PthreadCall) (f : Unit → ThreadM O α) (s : ThreadState O) :
    (useTid call >>= f) s = f () { s with uses := call :: s.uses } := rfl

/-- A call whose result is tested at once. -/
theorem failOn_bind {α : Type} (rc : Rc) (loc what : String) (f : Unit → ThreadM O α)
    (s : ThreadState O) :
    (failOn rc loc what >>= f) s =
      if rc ≠ 0 then
        .error (throwSystemError s.obj.mName loc rc what)
          { s with logged := (s.obj.mLog, .critical) :: s.logged }
      else f () s := by
  by_cases hrc : rc ≠ 0
  · rw [if_pos hrc]
    exact bind_of_error ((failOn_eq _ _ _ _).trans (if_pos hrc))
  · rw [if_neg hrc]
    exact bind_of_ok ((failOn_eq _ _ _ _).trans (if_neg hrc))

/-- One of the OS calls `UpdatePriority` makes on the thread `th` fails; without a thread the first one
does. -/
def PriorityResults.Fails (os : PriorityResults) : Option (OsThread O) → Prop
  | none => True
  | some th => os.getschedparam ≠ 0 ∨
      if th.isRt then os.setschedprio ≠ 0 else os.setpriority ≠ .done

namespace Thread

/-- `Join` never throws. -/
theorem join_eq (rc : Rc) (s : ThreadState O) :
    join rc s = .ok () (if s.obj.mJoin then
      { s with
        obj := s.obj.released
        uses := .join s.obj.mTid :: s.uses
        logged := (s.obj.mLog, if rc ≠ 0 then .error else .debug) :: (s.obj.mLog, .debug) :: s.logged }
      else s) := by
  unfold join
  change (if s.obj.mJoin then _ else _ : ThreadM O Unit) s = _
  split
  · rfl
  · rfl

/-- `Detach` on an object that owns nothing does nothing; on an owner it makes one call, and throws when
that fails. -/
theorem detach_eq (rc : Rc) (s : ThreadState O) :
    detach rc s =
      if s.obj.mJoin then
        if rc ≠ 0 then
          .error (throwSystemError s.obj.mName "Detach" rc "pthread_detach")
            { s with
              uses := .detach s.obj.mTid :: s.uses
              logged := (s.obj.mLog, .critical) :: s.logged }
        else
          .ok () { s with
            obj := s.obj.released
            threads := detachThread s.obj s.threads
            uses := .detach s.obj.mTid :: s.uses }
      else .ok () s := by
  unfold detach
  change (if s.obj.mJoin then _ else _ : ThreadM O Unit) s = _
  split
  · rw [useTid_bind, failOn_bind]
    rfl
  · rfl

/-! ### `UpdatePriority` -/

/-- What a completed `UpdatePriority` did: it changed a real-time priority of the thread of the object, or
the nice value of its caller, and the stored priority. -/
structure PriorityDone (caller : Tid) (prio : Int) (th : OsThread O) (s s' : ThreadState O) : Prop where
  obj : s'.obj = s.obj.setSchedPrio prio
  threads : s'.threads =
    if th.isRt then changed s.threads s.obj.mTid (OsThread.setPriority prio)
    else changed s.threads caller (OsThread.setNice prio)
  uses : ∃ more : List PthreadCall, (∀ use ∈ more, use.tid = s.obj.mTid) ∧
    s'.uses = more ++ .getschedparam s.obj.mTid :: s.uses
  logged : s'.logged = s.logged

/-- What an `UpdatePriority` that throws did: nothing but calls about the thread of its object, and it
logged. -/
structure PriorityRefused (s s' : ThreadState O) : Prop where
  obj : s'.obj = s.obj
  threads : s'.threads = s.threads
  uses : ∃ more : List PthreadCall, (∀ use ∈ more, use.tid = s.obj.mTid) ∧
    s'.uses = more ++ .getschedparam s.obj.mTid :: s.uses
  logged : s'.logged = (s.obj.mLog, .critical) :: s.logged

/-- The part of `UpdatePriority` after the parameters of the thread `th` are known. -/
theorem applyPriority_eq (os : PriorityResults) (caller mTid : Tid) (prio : Int) (th : OsThread O)
    (s : ThreadState O) :
    applyPriority os caller mTid prio ⟨th.tuning.policy, th.tuning.priority⟩ s =
      if th.isRt then
        if os.setschedprio ≠ 0 then
          .error (throwSystemError s.obj.mName "UpdatePriority" os.setschedprio "pthread_setschedprio")
            { s with
              uses := .setschedprio mTid :: s.uses
              logged := (s.obj.mLog, .critical) :: s.logged }
        else
          .ok () { s with
            threads := changed s.threads mTid (OsThread.setPriority prio)
            uses := .setschedprio mTid :: s.uses }
      else if os.setpriority ≠ .done then
        .error (throwSystemError s.obj.mName "UpdatePriority" os.setpriority.value "setpriority")
          { s with logged := (s.obj.mLog, .critical) :: s.logged }
      else
        .ok () { s with threads := changed s.threads caller (OsThread.setNice prio) } := by
  unfold applyPriority
  change (if th.isRt then _ else _ : ThreadM O Unit) s = _
  split
  · unfold pthreadSetschedprio
    by_cases hrc : os.setschedprio = 0
    · rw [if_neg (not_not.mpr hrc), hrc]
      rfl
    · rw [if_pos hrc, if_neg hrc]
      exact (failOn_eq _ _ _ _).trans (if_pos hrc)
  · unfold AxzlCore.setpriority
    by_cases hdone : os.setpriority = .done
    · rw [if_neg (not_not.mpr hdone), hdone]
      rfl
    · have hvalue : os.setpriority.value ≠ 0 := fun h => hdone (Syscall.value_eq_zero.mp h)
      rw [if_pos hdone, if_neg hdone]
      exact (failOn_eq _ _ _ _).trans (if_pos hvalue)

/-- `UpdatePriority` up to the parameters the OS reports: the call about its thread is made in any case. -/
theorem updatePriority_eq (os : PriorityResults) (caller : Tid) (prio : Int) (s : ThreadState O) :
    updatePriority os caller prio s =
      (failOn (if (s.threads s.obj.mTid).isSome then os.getschedparam else ESRCH) "UpdatePriority"
          "pthread_getschedparam" >>= fun _ =>
        applyPriority os caller s.obj.mTid prio ((s.threads s.obj.mTid).elim ⟨.fair, 0⟩
          fun th => ⟨th.tuning.policy, th.tuning.priority⟩) >>= fun _ =>
        modify fun s => { s with obj := s.obj.setSchedPrio prio })
      { s with uses := .getschedparam s.obj.mTid :: s.uses } := rfl

/-- **How a call of `UpdatePriority` ends**: normally when none of its OS calls fails, and else by an
exception. -/
theorem updatePriority_cases (os : PriorityResults) (caller : Tid) (prio : Int) (s : ThreadState O) :
    (∃ th s', s.threads s.obj.mTid = some th ∧ ¬ os.Fails (some th) ∧
        updatePriority os caller prio s = .ok () s' ∧ PriorityDone caller prio th s s') ∨
      (os.Fails (s.threads s.obj.mTid) ∧ ∃ e s', updatePriority os caller prio s = .error e s' ∧
        e.IsThrown ∧ PriorityRefused s s') := by
  rw [updatePriority_eq]
  cases hth : s.threads s.obj.mTid with
  | none =>
      -- no such thread
      refine .inr ⟨trivial, _, _, bind_of_error ((failOn_eq _ _ _ _).trans (if_pos (by simp [ESRCH]))),
        isThrown_of_ne (by simp [ESRCH]) _ _ _, rfl, rfl, ⟨[], by simp, rfl⟩, rfl⟩
  | some th =>
      rw [failOn_bind]
      by_cases hget : os.getschedparam = 0
      · rw [if_neg (by simp [hget])]
        have happly := applyPriority_eq os caller s.obj.mTid prio th
          { s with uses := .getschedparam s.obj.mTid :: s.uses }
        cases hrt : th.isRt with
        | true =>
            rw [if_pos hrt] at happly
            by_cases hset : os.setschedprio = 0
            · rw [if_neg (not_not.mpr hset)] at happly
              refine .inl ⟨th, _, rfl, by simp [PriorityResults.Fails, hget, hrt, hset],
                bind_of_ok happly, rfl, ?_, ⟨[.setschedprio s.obj.mTid], ?_, rfl⟩, rfl⟩
              · rw [if_pos hrt]
              · simp [PthreadCall.tid]
            · rw [if_pos hset] at happly
              refine .inr ⟨.inr ?_, _, _, bind_of_error happly, isThrown_of_ne hset _ _ _, rfl, rfl,
                ⟨[.setschedprio s.obj.mTid], ?_, rfl⟩, rfl⟩
              · rwa [if_pos hrt]
              · simp [PthreadCall.tid]
        | false =>
            rw [if_neg (by simp [hrt])] at happly
            by_cases hnice : os.setpriority = .done
            · rw [if_neg (not_not.mpr hnice)] at happly
              refine .inl ⟨th, _, rfl, by simp [PriorityResults.Fails, hget, hrt, hnice],
                bind_of_ok happly, rfl, ?_, ⟨[], by simp, rfl⟩, rfl⟩
              rw [if_neg (by simp [hrt])]
            · rw [if_pos hnice] at happly
              refine .inr ⟨.inr ?_, _, _, bind_of_error happly, isThrown_of_ne ?_ _ _ _, rfl, rfl,
                ⟨[], by simp, rfl⟩, rfl⟩
              · rwa [if_neg (by simp [hrt])]
              · exact fun h => hnice (Syscall.value_eq_zero.mp h)
      · rw [if_pos (by simpa using hget)]
        exact .inr ⟨.inl hget, _, _, rfl, isThrown_of_ne (by simpa using hget) _ _ _, rfl, rfl,
          ⟨[], by simp, rfl⟩, rfl⟩

/-! ### `PostThreadEntryInit` -/

/-- The nice value of a new thread: set where there are parameters that are not real-time. -/
theorem applyNice_some_eq (nice : Syscall) (self : Tid) (sched : SchedulerParams) (s : ThreadState O) :
    applyNice nice self (some sched) s =
      if sched.isRt then .ok () s
      else if nice = .done then
        .ok () { s with threads := changed s.threads self (OsThread.setNice sched.prio) }
      else
        .error (throwSystemError s.obj.mName "PostThreadEntryInit" nice.value "setpriority")
          { s with logged := (s.obj.mLog, .critical) :: s.logged } := by
  change (if !sched.isRt then _ else _ : ThreadM O Unit) s = _
  cases sched.isRt with
  | true => rfl
  | false =>
      change (AxzlCore.setpriority nice self sched.prio >>= fun rc =>
        failOn rc "PostThreadEntryInit" "setpriority") s = if nice = .done then _ else _
      unfold AxzlCore.setpriority
      by_cases hdone : nice = .done
      · rw [if_pos hdone, hdone]
        rfl
      · have hvalue : nice.value ≠ 0 := fun h => hdone (Syscall.value_eq_zero.mp h)
        rw [if_neg hdone, if_neg hdone]
        exact (failOn_eq _ _ _ _).trans (if_pos hvalue)

/-- The name is set once the nice value is. -/
theorem postThreadEntryInit_eq (nice : Syscall) (self : Tid) (s : ThreadState O) :
    postThreadEntryInit nice self s =
      (applyNice nice self s.obj.mSched >>= fun _ => modify fun s => { s with
        threads := changed s.threads self fun th => { th with appliedName := some (osName s.obj.mName) } })
      s := rfl

/-- `PostThreadEntryInit` throws when `setpriority` fails, and for no other reason. -/
theorem postThreadEntryInit_error {nice : Syscall} {self : Tid} {s s' : ThreadState O} {e : SystemError}
    (h : postThreadEntryInit nice self s = .error e s') :
    nice ≠ .done ∧
      e = throwSystemError s.obj.mName "PostThreadEntryInit" nice.value "setpriority" := by
  rw [postThreadEntryInit_eq] at h
  cases hsched : s.obj.mSched with
  | none =>
      rw [hsched] at h
      cases h
  | some sched =>
      rw [hsched] at h
      have hnice := applyNice_some_eq nice self sched s
      split at hnice
      · rw [bind_of_ok hnice] at h
        cases h
      · split at hnice
        · rw [bind_of_ok hnice] at h
          cases h
        · next hdone =>
            rw [bind_of_error hnice] at h
            cases h
            exact ⟨hdone, rfl⟩

end Thread

end AxzlCore

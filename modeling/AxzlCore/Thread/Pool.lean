import AxzlCore.Thread.Operations
import AxzlCore.Thread.Ownership

/-!
# `Thread` objects under every operation

The world of `Thread` objects with everything a program may do to them: next to `Join` also `Detach` may fail,
a construction may throw, and any thread may call `UpdatePriority` on any object.  Where an operation makes OS
calls, its step is a run of the computation in `Operations.lean`; the other steps are steps of the world.

Next to the world the state keeps the history of the threads that the results about ids and stored parameters
refer to, and what the last step gave to the pthread library and to the loggers.

* `PoolStep` — the steps.
* `join_ran`, `assignFrom_ran`, `destruct_ran`, `detach_ran`, `updatePriority_ok`, `updatePriority_error` — what
  each operation leaves, run on an object of the process.
-/

set_option autoImplicit false

namespace AxzlCore

open Errno Function

variable {O : Type}

/-- Objects and threads, with the history of the threads. -/
structure Pool (O : Type) extends World O where
  /-- The threads that `pthread_join` joined. -/
  joined : List Tid
  /-- The threads whose owner gave them up, by `Join` or by a successful `Detach`. -/
  released : List Tid
  /-- The threads constructed in an object that owns them. -/
  issued : List Tid
  /-- The scheduler parameters of a thread: those it was constructed with, under the priority of the last
  successful `UpdatePriority` on it. -/
  given : Tid → Option SchedulerParams
  /-- The calls with a thread id that the last step made, latest first. -/
  uses : List PthreadCall
  /-- What the last step logged, by the log pointer it dereferenced, latest first. -/
  logged : List (LogPtr × Severity)

/-- The initial thread, and no objects. -/
def Pool.init (tid₀ : Tid) (initial : OsThread O) (defaults : DefaultAttr) : Pool O where
  toWorld := World.init tid₀ initial defaults
  joined := []
  released := []
  issued := []
  given := fun _ => none
  uses := []
  logged := []

/-- The steps of a process: those of the world that use no thread id, and the operations that do. -/
inductive PoolAction (O : Type)
  | world (a : ThreadAction O)
  | constructThrows (creator : Tid) (o : O) (name : String) (log : LogPtr) (cfg : Thread.Config)
  | moveAssign (dst src : O) (rc : Rc)
  | join (o : O) (rc : Rc)
  | detach (o : O) (rc : Rc)
  | destroy (o : O) (rc : Rc)
  | updatePriority (caller : Tid) (o : O) (prio : Int) (os : PriorityResults)

/-- The action of the world behind an operation, if the world has it: there constructions and `Detach` do not
fail, and nobody calls `UpdatePriority`. -/
def PoolAction.plain : PoolAction O → Option (ThreadAction O)
  | .world a => some a
  | .moveAssign dst src rc => some (.moveAssign dst src rc)
  | .join o rc => some (.join o rc)
  | .detach o rc => if rc = 0 then some (.detach o) else none
  | .destroy o rc => some (.destroy o rc)
  | .constructThrows _ _ _ _ _ | .updatePriority _ _ _ _ => none

namespace ThreadAction

/-- The actions of the world that make no call with a thread id. -/
def Quiet : ThreadAction O → Prop
  | .construct _ _ _ _ _ _ | .moveConstruct _ _ | .entry _ _ | .retune _ _ | .setDefaults _ => True
  | .moveAssign dst src _ => dst = src
  | .join _ _ | .detach _ | .destroy _ _ => False

/-- The thread a construction gives to its object. -/
def issues : ThreadAction O → List Tid
  | .construct _ _ _ _ cfg tid => if cfg.mDetach.isSome && cfg.mDetach.getD false then [] else [tid]
  | _ => []

/-- The scheduler parameters of the threads after a construction. -/
def gives (given : Tid → Option SchedulerParams) : ThreadAction O → Tid → Option SchedulerParams
  | .construct _ _ _ _ cfg tid => update given tid cfg.mSched
  | _ => given

end ThreadAction

/-- The object behind `This` of a thread, if it is still there. -/
def World.thisObj (s : World O) (tid : Tid) : Option Thread :=
  match (s.threads tid).bind OsThread.birth with
  | some birth =>
      match s.objs birth.this with
      | .live obj => some obj
      | .unborn | .dead => none
  | none => none

/-- The next step of the thread is the throw of `PostThreadEntryInit`. -/
def World.entryThrows (s : World O) (tid : Tid) : Bool :=
  (s.threads tid).any fun th => decide (th.pc = .niceFailed)

/-- What an action of the world logs. -/
def ThreadAction.logs (s : World O) : ThreadAction O → List (LogPtr × Severity)
  | .construct _ _ _ log _ _ => [(orDefaultLog log, .trace)]
  | .entry tid _ =>
      if s.entryThrows tid then (s.thisObj tid).toList.map fun obj => (obj.mLog, .critical) else []
  | _ => []

/-- The joining and detaching calls among those with a thread id. -/
def PthreadCall.osCall : PthreadCall → Option OsCall
  | .join tid => some (.join tid)
  | .detach tid => some (.detach tid)
  | .getschedparam _ | .setschedprio _ => none

/-- The parameters under another priority. -/
def SchedulerParams.withPrio (prio : Int) (params : SchedulerParams) : SchedulerParams :=
  { params with prio := prio }

/-- The thread an object gives up when it is joined, detached or destroyed. -/
def Thread.ownedTids (obj : Thread) : List Tid := (ObjSlot.live obj).owned.toList

namespace Pool

/-- Where an operation on `obj` starts. -/
def opState (s : Pool O) (obj : Thread) : ThreadState O := ⟨obj, s.threads, [], []⟩

/-- The process after an operation that ended in `r`, with the places of the objects then. -/
def ran (s : Pool O) (r : ThreadState O) (objs : O → ObjSlot) : Pool O :=
  { s with
    objs := objs
    threads := r.threads
    calls := r.uses.filterMap PthreadCall.osCall ++ s.calls
    uses := r.uses
    logged := r.logged }

/-- The history after `Join` on `obj` returned, with the code of `pthread_join`: the object has given up its
thread in any case. -/
def afterJoin (s : Pool O) (rc : Rc) (obj : Thread) : Pool O :=
  { s with
    joined := (if rc = 0 then obj.ownedTids else []) ++ s.joined
    released := obj.ownedTids ++ s.released }

end Pool

variable [DecidableEq O]

/-- The steps of a process.  A successful `pthread_join` waits for its thread. -/
inductive PoolStep : Pool O → PoolAction O → Pool O → Prop
  | world {s : Pool O} {a : ThreadAction O} {w : World O} (hquiet : a.Quiet)
      (hstep : WorldStep s.toWorld a w) :
      PoolStep s (.world a)
        { s with
          toWorld := w
          issued := a.issues ++ s.issued
          given := a.gives s.given
          uses := []
          logged := a.logs s.toWorld }
  | constructThrows {s : Pool O} {creator tid : Tid} {o : O} {name : String} {log : LogPtr}
      {cfg : Thread.Config} {os : Thread.AttrResults} {rcCreate : Rc} {self : OsThread O} {e : SystemError}
      (hcreator : s.threads creator = some self) (hrunning : self.pc = .body)
      (hslot : s.objs o = .unborn)
      (hbuild : Thread.construct os rcCreate name log cfg self.getattr s.defaults.toPthreadAttr tid =
        .error e) :
      PoolStep s (.constructThrows creator o name log cfg)
        { s with uses := [], logged := [(orDefaultLog log, .critical)] }
  | moveAssign {s : Pool O} {dst src : O} {rc : Rc} {old obj : Thread} {r : ThreadState O}
      (hne : dst ≠ src) (hdst : s.objs dst = .live old) (hsrc : s.objs src = .live obj)
      (hready : rc = 0 → JoinReady s.toWorld old)
      (hrun : Thread.assignFrom rc obj (s.opState old) = .ok () r) :
      PoolStep s (.moveAssign dst src rc)
        ((s.ran r (update (update s.objs src (.live obj.movedFrom)) dst (.live r.obj))).afterJoin rc old)
  | join {s : Pool O} {o : O} {rc : Rc} {obj : Thread} {r : ThreadState O} (hobj : s.objs o = .live obj)
      (hready : rc = 0 → JoinReady s.toWorld obj)
      (hrun : Thread.join rc (s.opState obj) = .ok () r) :
      PoolStep s (.join o rc) ((s.ran r (update s.objs o (.live r.obj))).afterJoin rc obj)
  | detach {s : Pool O} {o : O} {rc : Rc} {obj : Thread} {r : ThreadState O}
      (hobj : s.objs o = .live obj) (hrun : Thread.detach rc (s.opState obj) = .ok () r) :
      PoolStep s (.detach o rc)
        { s.ran r (update s.objs o (.live r.obj)) with released := obj.ownedTids ++ s.released }
  | detachThrows {s : Pool O} {o : O} {rc : Rc} {obj : Thread} {e : SystemError} {r : ThreadState O}
      (hobj : s.objs o = .live obj) (hrun : Thread.detach rc (s.opState obj) = .error e r) :
      PoolStep s (.detach o rc) (s.ran r (update s.objs o (.live r.obj)))
  | destroy {s : Pool O} {o : O} {rc : Rc} {obj : Thread} {r : ThreadState O} (hobj : s.objs o = .live obj)
      (hready : rc = 0 → JoinReady s.toWorld obj)
      (hrun : Thread.destruct rc (s.opState obj) = .ok () r) :
      PoolStep s (.destroy o rc) ((s.ran r (update s.objs o .dead)).afterJoin rc obj)
  | updatePriority {s : Pool O} {caller : Tid} {o : O} {prio : Int} {os : PriorityResults}
      {self : OsThread O} {obj : Thread} {r : ThreadState O} (hcaller : s.threads caller = some self)
      (hrunning : self.pc = .body) (hobj : s.objs o = .live obj)
      (hrun : Thread.updatePriority os caller prio (s.opState obj) = .ok () r) :
      PoolStep s (.updatePriority caller o prio os)
        { s.ran r (update s.objs o (.live r.obj)) with
          given := update s.given obj.mTid ((s.given obj.mTid).map (SchedulerParams.withPrio prio)) }
  | updatePriorityThrows {s : Pool O} {caller : Tid} {o : O} {prio : Int} {os : PriorityResults}
      {self : OsThread O} {obj : Thread} {e : SystemError} {r : ThreadState O}
      (hcaller : s.threads caller = some self) (hrunning : self.pc = .body)
      (hobj : s.objs o = .live obj)
      (hrun : Thread.updatePriority os caller prio (s.opState obj) = .error e r) :
      PoolStep s (.updatePriority caller o prio os) (s.ran r (update s.objs o (.live r.obj)))

/-! ## The start of simple runs -/

/-- The process in which the initial thread just constructed its first thread, in `o`. -/
def Pool.firstBorn (o : O) (cfg : Thread.Config) (obj : Thread) (attr : PthreadAttr) (stack : Region) :
    Pool O where
  objs := update (fun _ => .unborn) o (.live obj)
  threads := update (update (fun _ => none) 0 (some mainThread)) 1
    (some (pthreadCreate mainThread attr stack ⟨o, "worker", cfg.mSched, attr.detached⟩))
  defaults := plainDefaults
  calls := []
  joined := []
  released := []
  issued := (ThreadAction.construct 0 o "worker" none cfg 1).issues
  given := update (fun _ => none) 1 cfg.mSched
  uses := []
  logged := [(orDefaultLog none, .trace)]

theorem poolStep_first {o : O} {cfg : Thread.Config} {obj : Thread} {attr : PthreadAttr} {stack : Region}
    (hbuild : Thread.construct .succeed 0 "worker" none cfg (mainThread : OsThread O).getattr
      plainDefaults.toPthreadAttr 1 = .ok (obj, attr))
    (hstack : StackChosen (World.init 0 (mainThread : OsThread O) plainDefaults) attr stack) :
    PoolStep (Pool.init 0 mainThread plainDefaults) (.world (.construct 0 o "worker" none cfg 1))
      (Pool.firstBorn o cfg obj attr stack) := by
  have hstep := PoolStep.world (s := Pool.init 0 mainThread plainDefaults)
    (a := ThreadAction.construct 0 o "worker" none cfg 1) trivial (.construct rfl rfl rfl rfl hbuild hstack)
  have hissued : (ThreadAction.construct 0 o "worker" none cfg 1).issues ++
      (Pool.init 0 (mainThread : OsThread O) plainDefaults).issued =
        (ThreadAction.construct 0 o "worker" none cfg 1).issues := List.append_nil _
  rw [hissued] at hstep
  exact hstep

/-! ## What a completed operation left -/

omit [DecidableEq O]

section Completed

variable {s : Pool O} {obj : Thread} {rc : Rc} {r : ThreadState O} {e : SystemError}

/-- What `Join` logs: nothing unless it joins. -/
def Thread.joinLogs (rc : Rc) (obj : Thread) : List (LogPtr × Severity) :=
  if obj.mJoin then [(obj.mLog, if rc ≠ 0 then .error else .debug), (obj.mLog, .debug)] else []

theorem released_of_not_owner (h : obj.mJoin = false) : obj.released = obj := by
  obtain ⟨mName, mLog, mJoin, mTid, mSched⟩ := obj
  cases h
  rfl

theorem ownedTids_of_owner (h : obj.mJoin = true) : obj.ownedTids = [obj.mTid] := by
  show (if obj.mJoin then _ else _ : Option Tid).toList = _
  rw [h]
  rfl

theorem ownedTids_of_not_owner (h : obj.mJoin = false) : obj.ownedTids = [] := by
  show (if obj.mJoin then _ else _ : Option Tid).toList = _
  rw [h]
  rfl

theorem join_ran (rc : Rc) (s : Pool O) (obj : Thread) :
    Thread.join rc (s.opState obj) = .ok ()
      ⟨obj.released, s.threads, obj.ownedTids.map PthreadCall.join, obj.joinLogs rc⟩ := by
  rw [Thread.join_eq]
  cases hjoin : obj.mJoin with
  | true =>
      have howner : (s.opState obj).obj.mJoin = true := hjoin
      rw [if_pos howner, ownedTids_of_owner hjoin, Thread.joinLogs, if_pos hjoin]
      rfl
  | false =>
      have hnone : ¬ (s.opState obj).obj.mJoin = true := by simp [Pool.opState, hjoin]
      rw [if_neg hnone, ownedTids_of_not_owner hjoin, released_of_not_owner hjoin, Thread.joinLogs,
        if_neg (by simp [hjoin])]
      rfl

theorem assignFrom_ran (rc : Rc) (s : Pool O) (obj src : Thread) :
    Thread.assignFrom rc src (s.opState obj) = .ok ()
      ⟨obj.released.moveAssign src, s.threads, obj.ownedTids.map PthreadCall.join, obj.joinLogs rc⟩ := by
  unfold Thread.assignFrom
  rw [bind_of_ok (join_ran rc s obj)]
  rfl

theorem destruct_ran (rc : Rc) (s : Pool O) (obj : Thread) :
    ∃ logged, Thread.destruct rc (s.opState obj) = .ok ()
        ⟨obj.released, s.threads, obj.ownedTids.map PthreadCall.join, logged ++ obj.joinLogs rc⟩ ∧
      ∀ entry ∈ logged, entry.1 ≠ none := by
  unfold Thread.destruct
  rw [bind_of_ok (join_ran rc s obj)]
  obtain ⟨mName, mLog, mJoin, mTid, mSched⟩ := obj
  cases mLog with
  | none => exact ⟨[], rfl, by simp⟩
  | some logger => exact ⟨[(some logger, .trace)], rfl, by simp⟩

theorem detach_ran (rc : Rc) (s : Pool O) (obj : Thread) :
    Thread.detach rc (s.opState obj) =
      if obj.mJoin = true ∧ rc ≠ 0 then
        .error (throwSystemError obj.mName "Detach" rc "pthread_detach")
          ⟨obj, s.threads, [.detach obj.mTid], [(obj.mLog, .critical)]⟩
      else
        .ok () ⟨obj.released, detachThread obj s.threads, obj.ownedTids.map PthreadCall.detach, []⟩ := by
  rw [Thread.detach_eq]
  cases hjoin : obj.mJoin with
  | true =>
      have howner : (s.opState obj).obj.mJoin = true := hjoin
      rw [if_pos howner, ownedTids_of_owner hjoin]
      by_cases hrc : rc = 0
      · rw [if_neg (not_not.mpr hrc), if_neg (fun h => h.2 hrc)]
        rfl
      · rw [if_pos hrc, if_pos ⟨rfl, hrc⟩]
        rfl
  | false =>
      have hnone : ¬ (s.opState obj).obj.mJoin = true := by simp [Pool.opState, hjoin]
      rw [if_neg hnone, if_neg (by simp), ownedTids_of_not_owner hjoin, released_of_not_owner hjoin,
        detachThread, if_neg (by simp [hjoin])]
      rfl

theorem updatePriority_ok {os : PriorityResults} {caller : Tid} {prio : Int}
    (hrun : Thread.updatePriority os caller prio (s.opState obj) = .ok () r) :
    ∃ th, s.threads obj.mTid = some th ∧ ¬ os.Fails (s.threads obj.mTid) ∧
      Thread.PriorityDone caller prio th (s.opState obj) r := by
  rcases Thread.updatePriority_cases os caller prio (s.opState obj) with
    ⟨th, r', hth, hfails, hok, hdone⟩ | ⟨-, e, r', herror, -⟩
  · rw [hrun] at hok
    cases hok
    change s.threads obj.mTid = some th at hth
    rw [hth]
    exact ⟨th, rfl, hfails, hdone⟩
  · rw [hrun] at herror
    cases herror

theorem updatePriority_error {os : PriorityResults} {caller : Tid} {prio : Int}
    (hrun : Thread.updatePriority os caller prio (s.opState obj) = .error e r) :
    os.Fails (s.threads obj.mTid) ∧ Thread.PriorityRefused (s.opState obj) r := by
  rcases Thread.updatePriority_cases os caller prio (s.opState obj) with
    ⟨th, r', -, -, hok, -⟩ | ⟨hfails, e', r', herror, -, hrefused⟩
  · rw [hrun] at hok
    cases hok
  · rw [hrun] at herror
    cases herror
    exact ⟨hfails, hrefused⟩

end Completed

end AxzlCore

import AxzlCore.Library.Runs
import AxzlCore.Thread.Object
import Mathlib.Logic.Function.Basic

/-!
# Threads and the objects that name them

The system behind the thread results: `Thread` objects that are constructed, moved, joined, detached and
destroyed in any order, the OS threads they create, and the process defaults.  A new thread runs
`ThreadEntry` step by step, interleaved with everything else; up to the end of `PostThreadEntryInit` its
steps read the object it was constructed in, through the raw pointer `This` of its context.

* `OsThread` — a thread as the OS has it, with the data of its construction (`Birth`).
* `OsThread.entryStep` — one step of `ThreadEntry`, reading the object behind `This`.
* `WorldStep` — the steps of the system.  `Join`, also in a move assignment or a destructor, waits for its
  thread if `pthread_join` succeeds; where that call fails `Join` logs it and returns.
-/

set_option autoImplicit false

namespace AxzlCore

open Errno Function Runs

/-- What the OS lets a thread change about itself, or others about it. -/
structure Tuning where
  affinity : CpuSet
  inheritSched : Bool
  policy : Policy
  priority : Int
  nice : Int

/-- Where a thread is in `ThreadEntry`. -/
inductive EntryPc
  /-- Before the test of `mSched` in `PostThreadEntryInit`. -/
  | start
  /-- Before the call of `setpriority`. -/
  | setNice
  /-- `setpriority` failed; before the throw. -/
  | niceFailed
  /-- Before the call of `pthread_setname_np`. -/
  | setName
  /-- In the callable. -/
  | body
  | done
  /-- An exception left `ThreadEntry`. -/
  | terminated
  /-- A dead object was used: the thread may do anything from here. -/
  | undefined
  deriving DecidableEq, Repr

/-- The part of `ThreadEntry` that uses the object behind `This`. -/
def EntryPc.usesThis : EntryPc → Bool
  | .start | .setNice | .niceFailed | .setName => true
  | _ => false

/-- A thread that has a stack in use. -/
def EntryPc.live : EntryPc → Bool
  | .done | .terminated => false
  | _ => true

variable {O : Type}

/-- The data of a construction: the object (`This` of the context), what it was given, and the detach state
the thread was created in. -/
structure Birth (O : Type) where
  this : O
  name : String
  sched : Option SchedulerParams
  detached : Bool

/-- A thread as the OS has it.  The initial thread has no birth. -/
structure OsThread (O : Type) where
  birth : Option (Birth O)
  detached : Bool
  stack : Region
  guardSize : Nat
  tuning : Tuning
  pc : EntryPc
  /-- The bytes given to `pthread_setname_np`. -/
  appliedName : Option (List UInt8)
  appliedNice : Option Int

/-- The process defaults of `pthread_setattr_default_np`, which refuses a stack address. -/
structure DefaultAttr extends PthreadAttr where
  no_stack : stackTop = none

/-- The place of one object. -/
inductive ObjSlot
  | unborn
  | live (obj : Thread)
  | dead
  deriving DecidableEq, Repr

/-- Objects, threads, defaults, and the joining and detaching calls made so far, latest first. -/
structure World (O : Type) where
  objs : O → ObjSlot
  threads : Tid → Option (OsThread O)
  defaults : DefaultAttr
  calls : List OsCall

/-- The initial thread `tid₀`, running, and no objects. -/
def World.init (tid₀ : Tid) (initial : OsThread O) (defaults : DefaultAttr) : World O where
  objs := fun _ => .unborn
  threads := update (fun _ => none) tid₀ (some { initial with birth := none, pc := .body })
  defaults := defaults
  calls := []

/-! ## OS functions -/

/-- `pthread_getattr_np`: the actual attributes, stack included. -/
def OsThread.getattr (th : OsThread O) : PthreadAttr where
  detached := th.detached
  stackTop := some th.stack.top
  stackSize := th.stack.size
  guardSize := th.guardSize
  affinity := some th.tuning.affinity
  inheritSched := th.tuning.inheritSched
  policy := th.tuning.policy
  priority := th.tuning.priority

/-- The stack `pthread_create` gives a new thread: the one the attribute object names, or a fresh one. -/
def StackChosen (s : World O) (attr : PthreadAttr) (stack : Region) : Prop :=
  match attr.stackTop with
  -- nobody asks whether that stack is in use
  | some top => stack = ⟨top, attr.stackSize⟩
  | none => stack.size = attr.stackSize ∧
      ∀ t th, s.threads t = some th → th.pc.live = true → stack.Disjoint th.stack

/-- `pthread_create` by `creator`. -/
def pthreadCreate (creator : OsThread O) (attr : PthreadAttr) (stack : Region) (birth : Birth O) :
    OsThread O where
  birth := some birth
  detached := attr.detached
  stack := stack
  guardSize := attr.guardSize
  tuning :=
    { affinity := attr.affinity.getD creator.tuning.affinity
      inheritSched := attr.inheritSched
      policy := if attr.inheritSched then creator.tuning.policy else attr.policy
      priority := if attr.inheritSched then creator.tuning.priority else attr.priority
      nice := creator.tuning.nice }
  pc := .start
  appliedName := none
  appliedNice := none

/-! ## `ThreadEntry` -/

/-- One step of `ThreadEntry` while the object behind `This` is `obj`; `setpriority` returns `rc`. -/
def OsThread.entryStep (obj : Thread) (rc : Rc) (th : OsThread O) : OsThread O :=
  match th.pc with
  | .start =>
      match obj.mSched with
      | some sched => if sched.isRt then { th with pc := .setName } else { th with pc := .setNice }
      | none => { th with pc := .setName }
  | .setNice =>
      match obj.mSched with
      | some sched =>
          if rc = 0 then
            { th with
              tuning := { th.tuning with nice := sched.prio }
              appliedNice := some sched.prio
              pc := .setName }
          else
            { th with pc := .niceFailed }
      -- `mSched` was there when it was tested and is empty now
      | none => { th with pc := .undefined }
  | .niceFailed => { th with pc := .terminated }
  | .setName => { th with appliedName := some (Thread.osName obj.mName), pc := .body }
  | .body => { th with pc := .done }
  | .done | .terminated | .undefined => th

/-- One step of `ThreadEntry` when the object behind `This` is gone. -/
def OsThread.danglingStep (th : OsThread O) : OsThread O :=
  if th.pc.usesThis then { th with pc := .undefined }
  else if th.pc = .body then { th with pc := .done }
  else th

/-- One step of `ThreadEntry`, with whatever is behind `This`. -/
def ObjSlot.entryStep (slot : ObjSlot) (rc : Rc) (th : OsThread O) : OsThread O :=
  match slot with
  | .live obj => th.entryStep obj rc
  | .unborn | .dead => th.danglingStep

/-! ## Steps -/

/-- The steps of the system.  Where the operation calls `pthread_join`, `rc` is what that returns. -/
inductive ThreadAction (O : Type)
  | construct (creator : Tid) (o : O) (name : String) (log : LogPtr) (cfg : Thread.Config) (tid : Tid)
  | moveConstruct (dst src : O)
  | moveAssign (dst src : O) (rc : Rc)
  | join (o : O) (rc : Rc)
  | detach (o : O)
  | destroy (o : O) (rc : Rc)
  | entry (tid : Tid) (rc : Rc)
  | retune (tid : Tid) (tuning : Tuning)
  | setDefaults (defaults : DefaultAttr)

/-- A call of `pthread_join` for the object that returns zero may do so now.  Any other code may come at any
time: a detached thread, the calling thread and a thread that is gone are refused at once. -/
def JoinReady (s : World O) (obj : Thread) : Prop :=
  obj.mJoin = true → ∃ th, s.threads obj.mTid = some th ∧ th.pc = .done

/-- The threads after `pthread_detach`, if the object owns one. -/
def detachThread (obj : Thread) (threads : Tid → Option (OsThread O)) : Tid → Option (OsThread O) :=
  if obj.mJoin then
    update threads obj.mTid ((threads obj.mTid).map fun th => { th with detached := true })
  else
    threads

variable [DecidableEq O]

/-- The system: constructions and `Detach` succeed, `pthread_join` may fail, in any order that the language and
the blocking calls allow.  (A construction or a `Detach` that fails throws and leaves objects and threads as
they were, so it is no step here.) -/
inductive WorldStep : World O → ThreadAction O → World O → Prop
  | construct {s : World O} {creator tid : Tid} {o : O} {name : String} {log : LogPtr}
      {cfg : Thread.Config} {os : Thread.AttrResults} {rcCreate : Rc} {self : OsThread O}
      {obj : Thread} {attr : PthreadAttr} {stack : Region}
      (hcreator : s.threads creator = some self) (hrunning : self.pc = .body)
      (hslot : s.objs o = .unborn) (hnew : s.threads tid = none)
      (hbuild : Thread.construct os rcCreate name log cfg self.getattr s.defaults.toPthreadAttr tid =
        .ok (obj, attr))
      (hstack : StackChosen s attr stack) :
      WorldStep s (.construct creator o name log cfg tid)
        { s with
          objs := update s.objs o (.live obj)
          threads := update s.threads tid
            (some (pthreadCreate self attr stack
              ⟨o, Thread.nameOrDefault name, cfg.mSched, attr.detached⟩)) }
  | moveConstruct {s : World O} {dst src : O} {obj : Thread} (hdst : s.objs dst = .unborn)
      (hsrc : s.objs src = .live obj) :
      WorldStep s (.moveConstruct dst src)
        { s with
          objs := update (update s.objs src (.live obj.movedFrom)) dst (.live obj.moveConstruct) }
  | moveAssignSelf {s : World O} {o : O} {rc : Rc} {obj : Thread} (hobj : s.objs o = .live obj) :
      WorldStep s (.moveAssign o o rc) s
  | moveAssign {s : World O} {dst src : O} {rc : Rc} {old obj : Thread} (hne : dst ≠ src)
      (hdst : s.objs dst = .live old) (hsrc : s.objs src = .live obj)
      (hready : rc = 0 → JoinReady s old) :
      WorldStep s (.moveAssign dst src rc)
        { s with
          objs := update (update s.objs src (.live obj.movedFrom)) dst
            (.live (old.released.moveAssign obj))
          calls := old.joinCalls ++ s.calls }
  -- the code of `pthread_join` is logged and dropped: whatever it is, the object gives up its thread
  | join {s : World O} {o : O} {rc : Rc} {obj : Thread} (hobj : s.objs o = .live obj)
      (hready : rc = 0 → JoinReady s obj) :
      WorldStep s (.join o rc)
        { s with
          objs := update s.objs o (.live obj.released)
          calls := obj.joinCalls ++ s.calls }
  | detach {s : World O} {o : O} {obj : Thread} (hobj : s.objs o = .live obj) :
      WorldStep s (.detach o)
        { s with
          objs := update s.objs o (.live obj.released)
          threads := detachThread obj s.threads
          calls := obj.detachCalls ++ s.calls }
  | destroy {s : World O} {o : O} {rc : Rc} {obj : Thread} (hobj : s.objs o = .live obj)
      (hready : rc = 0 → JoinReady s obj) :
      WorldStep s (.destroy o rc)
        { s with
          objs := update s.objs o .dead
          calls := obj.joinCalls ++ s.calls }
  | entry {s : World O} {tid : Tid} {rc : Rc} {th : OsThread O} {birth : Birth O}
      (hthread : s.threads tid = some th) (hbirth : th.birth = some birth) :
      WorldStep s (.entry tid rc)
        { s with
          threads := update s.threads tid (some ((s.objs birth.this).entryStep rc th)) }
  | retune {s : World O} {tid : Tid} {th : OsThread O} {tuning : Tuning}
      (hthread : s.threads tid = some th) :
      WorldStep s (.retune tid tuning)
        { s with threads := update s.threads tid (some { th with tuning := tuning }) }
  | setDefaults {s : World O} {defaults : DefaultAttr} :
      WorldStep s (.setDefaults defaults) { s with defaults := defaults }

/-! ## What a step does to one thread -/

/-- The same thread before and after a step: its birth and stack are fixed, and it does not come back to
life. -/
structure SameThread (th th' : OsThread O) : Prop where
  birth : th'.birth = th.birth
  stack : th'.stack = th.stack
  live : th'.pc.live = true → th.pc.live = true

omit [DecidableEq O] in
theorem SameThread.refl (th : OsThread O) : SameThread th th := ⟨rfl, rfl, fun h => h⟩

omit [DecidableEq O] in
/-- A step of `ThreadEntry` does not end the life of a thread twice. -/
theorem sameThread_entryStep (slot : ObjSlot) (rc : Rc) (th : OsThread O) :
    SameThread th (slot.entryStep rc th) := by
  have hlive : ∀ obj : Thread, SameThread th (th.entryStep obj rc) := by
    intro obj
    unfold OsThread.entryStep
    -- by the program point: a step that does anything starts at a live one
    split
    · next hpc =>
        split
        · split
          · exact ⟨rfl, rfl, fun _ => by rw [hpc]; rfl⟩
          · exact ⟨rfl, rfl, fun _ => by rw [hpc]; rfl⟩
        · exact ⟨rfl, rfl, fun _ => by rw [hpc]; rfl⟩
    · next hpc =>
        split
        · split
          · exact ⟨rfl, rfl, fun _ => by rw [hpc]; rfl⟩
          · exact ⟨rfl, rfl, fun _ => by rw [hpc]; rfl⟩
        · exact ⟨rfl, rfl, fun _ => by rw [hpc]; rfl⟩
    · next hpc => exact ⟨rfl, rfl, fun _ => by rw [hpc]; rfl⟩
    · next hpc => exact ⟨rfl, rfl, fun _ => by rw [hpc]; rfl⟩
    · next hpc => exact ⟨rfl, rfl, fun _ => by rw [hpc]; rfl⟩
    · exact .refl th
    · exact .refl th
    · exact .refl th
  have hdangling : SameThread th th.danglingStep := by
    unfold OsThread.danglingStep
    split
    · next huses =>
        refine ⟨rfl, rfl, fun _ => ?_⟩
        cases hpc : th.pc <;> simp_all [EntryPc.usesThis, EntryPc.live]
    · split
      · next hpc => exact ⟨rfl, rfl, fun _ => by rw [hpc]; rfl⟩
      · exact .refl th
  cases slot with
  | unborn => exact hdangling
  | live obj => exact hlive obj
  | dead => exact hdangling

omit [DecidableEq O] in
theorem detachThread_cases (obj : Thread) (threads : Tid → Option (OsThread O)) (t : Tid) :
    (threads t = none ∧ detachThread obj threads t = none) ∨
      ∃ th th', threads t = some th ∧ detachThread obj threads t = some th' ∧ SameThread th th' := by
  unfold detachThread
  split
  · by_cases ht : t = obj.mTid
    · subst ht
      rw [update_self]
      cases hthread : threads obj.mTid with
      | none => exact .inl ⟨rfl, rfl⟩
      | some th => exact .inr ⟨th, _, rfl, rfl, ⟨rfl, rfl, fun h => h⟩⟩
    · rw [update_of_ne ht]
      cases hthread : threads t with
      | none => exact .inl ⟨rfl, rfl⟩
      | some th => exact .inr ⟨th, th, rfl, rfl, .refl th⟩
  · cases hthread : threads t with
    | none => exact .inl ⟨rfl, rfl⟩
    | some th => exact .inr ⟨th, th, rfl, rfl, .refl th⟩

/-- The same thread at the same point of `ThreadEntry`. -/
structure SameEntry (th th' : OsThread O) : Prop where
  birth : th'.birth = th.birth
  pc : th'.pc = th.pc
  appliedName : th'.appliedName = th.appliedName
  appliedNice : th'.appliedNice = th.appliedNice

/-- **One thread across one step**: it does not exist, it stays the same thread, or it is the thread that
the step constructs. -/
theorem threads_step {s s' : World O} {a : ThreadAction O} (hstep : WorldStep s a s') (t : Tid) :
    (s.threads t = none ∧ s'.threads t = none) ∨
      (∃ th th', s.threads t = some th ∧ s'.threads t = some th' ∧ SameThread th th') ∨
      ∃ creator o name log cfg, a = .construct creator o name log cfg t ∧ s.threads t = none := by
  -- where the step leaves the thread alone
  have hsame : s'.threads t = s.threads t → (s.threads t = none ∧ s'.threads t = none) ∨
      ∃ th th', s.threads t = some th ∧ s'.threads t = some th' ∧ SameThread th th' := by
    intro heq
    cases hthread : s.threads t with
    | none => exact .inl ⟨rfl, heq.trans hthread⟩
    | some th => exact .inr ⟨th, th, rfl, heq.trans hthread, .refl th⟩
  have hleft : ((s.threads t = none ∧ s'.threads t = none) ∨
      ∃ th th', s.threads t = some th ∧ s'.threads t = some th' ∧ SameThread th th') →
      (s.threads t = none ∧ s'.threads t = none) ∨
      (∃ th th', s.threads t = some th ∧ s'.threads t = some th' ∧ SameThread th th') ∨
      ∃ creator o name log cfg, a = .construct creator o name log cfg t ∧ s.threads t = none := by
    rintro (h | h)
    · exact .inl h
    · exact .inr (.inl h)
  cases hstep with
  | @construct creator tid o name log cfg os rcCreate self obj attr stack _ _ _ hnew _ _ =>
      by_cases ht : t = tid
      · subst ht
        exact .inr (.inr ⟨creator, o, name, log, cfg, rfl, hnew⟩)
      · exact hleft (hsame (update_of_ne ht _ _))
  | moveConstruct hdst hsrc => exact hleft (hsame rfl)
  | moveAssignSelf hobj => exact hleft (hsame rfl)
  | moveAssign hne hdst hsrc hready => exact hleft (hsame rfl)
  | join hobj hready => exact hleft (hsame rfl)
  | @detach o obj hobj => exact hleft (detachThread_cases obj s.threads t)
  | destroy hobj hready => exact hleft (hsame rfl)
  | @entry tid rc th birth hthread hbirth =>
      by_cases ht : t = tid
      · subst ht
        exact .inr (.inl ⟨th, _, hthread, update_self _ _ _, sameThread_entryStep _ _ _⟩)
      · exact hleft (hsame (update_of_ne ht _ _))
  | @retune tid th tuning hthread =>
      by_cases ht : t = tid
      · subst ht
        exact .inr (.inl ⟨th, _, hthread, update_self _ _ _, ⟨rfl, rfl, fun h => h⟩⟩)
      · exact hleft (hsame (update_of_ne ht _ _))
  | setDefaults => exact hleft (hsame rfl)

/-- A thread moves on in `ThreadEntry` only by its own steps: after any other step it is where it was, or it
is new. -/
theorem entry_frame {s s' : World O} {a : ThreadAction O} (hstep : WorldStep s a s') {t : Tid}
    {th' : OsThread O} (hth' : s'.threads t = some th') (hentry : ∀ rc, a ≠ .entry t rc)
    (hconstruct : ∀ creator o name log cfg, a ≠ .construct creator o name log cfg t) :
    ∃ th, s.threads t = some th ∧ SameEntry th th' := by
  have hself : s'.threads t = s.threads t → ∃ th, s.threads t = some th ∧ SameEntry th th' :=
    fun heq => ⟨th', heq.symm.trans hth', ⟨rfl, rfl, rfl, rfl⟩⟩
  cases hstep with
  | @construct creator tid o name log cfg os rcCreate self obj attr stack _ _ _ hnew _ _ =>
      by_cases ht : t = tid
      · subst ht
        exact absurd rfl (hconstruct creator o name log cfg)
      · exact hself (update_of_ne ht _ _)
  | moveConstruct | moveAssignSelf | moveAssign | join | destroy | setDefaults => exact hself rfl
  | @detach o obj hobj =>
      change detachThread obj s.threads t = some th' at hth'
      unfold detachThread at hth'
      split at hth'
      · rw [update_apply] at hth'
        split at hth'
        · next ht =>
            obtain ⟨th, hth, rfl⟩ := Option.map_eq_some_iff.mp hth'
            exact ⟨th, ht ▸ hth, ⟨rfl, rfl, rfl, rfl⟩⟩
        · exact ⟨th', hth', ⟨rfl, rfl, rfl, rfl⟩⟩
      · exact ⟨th', hth', ⟨rfl, rfl, rfl, rfl⟩⟩
  | @entry tid rc th birth hthread hbirth =>
      by_cases ht : t = tid
      · subst ht
        exact absurd rfl (hentry rc)
      · exact hself (update_of_ne ht _ _)
  | @retune tid th tuning hthread =>
      by_cases ht : t = tid
      · subst ht
        change update s.threads t _ t = some th' at hth'
        rw [update_self] at hth'
        cases hth'
        exact ⟨th, hthread, ⟨rfl, rfl, rfl, rfl⟩⟩
      · exact hself (update_of_ne ht _ _)

/-! ## Simple constructions -/

/-- A configuration that sets nothing but inheritance and the detach state. -/
def plainConfig (mInherit : Bool) (mDetach : Option Bool) : Thread.Config :=
  { mInherit := mInherit, mDetach := mDetach }

/-- The attribute object of a plain configuration. -/
def plainAttr (self dflt : PthreadAttr) (mInherit : Bool) (mDetach : Option Bool) : PthreadAttr :=
  { (if mInherit then self else dflt) with
    detached := mDetach.getD (if mInherit then self else dflt).detached }

/-- The object a plain construction leaves. -/
def plainThread (name : String) (log : LogPtr) (mDetach : Option Bool) (tid : Tid) : Thread :=
  ⟨Thread.nameOrDefault name, orDefaultLog log, !(mDetach.isSome && mDetach.getD false), tid, none⟩

omit [DecidableEq O] in
/-- When no OS call fails, a plain construction succeeds. -/
theorem construct_plain (name : String) (log : LogPtr) (mInherit : Bool) (mDetach : Option Bool)
    (self dflt : PthreadAttr) (tid : Tid) :
    Thread.construct .succeed 0 name log (plainConfig mInherit mDetach) self dflt tid =
      .ok (plainThread name log mDetach tid, plainAttr self dflt mInherit mDetach) := by
  cases mInherit with
  | true => cases mDetach with
    | none => rfl
    | some detach => rfl
  | false => cases mDetach with
    | none => rfl
    | some detach => rfl

/-- The world after a plain construction. -/
def World.plainBorn (s : World O) (self : OsThread O) (o : O) (name : String) (log : LogPtr)
    (mInherit : Bool) (mDetach : Option Bool) (tid : Tid) (stack : Region) : World O :=
  let attr := plainAttr self.getattr s.defaults.toPthreadAttr mInherit mDetach
  { s with
    objs := update s.objs o (.live (plainThread name log mDetach tid))
    threads := update s.threads tid
      (some (pthreadCreate self attr stack ⟨o, Thread.nameOrDefault name, none, attr.detached⟩)) }

theorem step_construct_plain {s : World O} {creator tid : Tid} {self : OsThread O} {o : O}
    {name : String} {log : LogPtr} {mInherit : Bool} {mDetach : Option Bool} (stack : Region)
    (hcreator : s.threads creator = some self) (hrunning : self.pc = .body)
    (hslot : s.objs o = .unborn) (hnew : s.threads tid = none)
    (hstack : StackChosen s (plainAttr self.getattr s.defaults.toPthreadAttr mInherit mDetach)
      stack) :
    WorldStep s (.construct creator o name log (plainConfig mInherit mDetach) tid)
      (s.plainBorn self o name log mInherit mDetach tid stack) :=
  .construct hcreator hrunning hslot hnew (construct_plain name log mInherit mDetach _ _ tid) hstack

/-- A running thread with a stack of its own, to start runs from. -/
def mainThread : OsThread O where
  birth := none
  detached := false
  stack := ⟨1000, 100⟩
  guardSize := 0
  tuning := ⟨∅, true, .fair, 0, 0⟩
  pc := .body
  appliedName := none
  appliedNice := none

/-- Process defaults: joinable threads with stacks of the same size. -/
def plainDefaults : DefaultAttr where
  detached := false
  stackTop := none
  stackSize := 100
  guardSize := 0
  affinity := none
  inheritSched := true
  policy := .fair
  priority := 0
  no_stack := rfl

/-- The first step of a run: the initial thread constructs a thread on the stack of `attr`'s choice. -/
theorem step_first_plain (o : O) (name : String) (log : LogPtr) (mInherit : Bool)
    (mDetach : Option Bool) {stack : Region}
    (hstack : StackChosen (World.init 0 (mainThread : OsThread O) plainDefaults)
      (plainAttr (mainThread : OsThread O).getattr plainDefaults.toPthreadAttr mInherit mDetach)
      stack) :
    WorldStep (World.init 0 mainThread plainDefaults)
      (.construct 0 o name log (plainConfig mInherit mDetach) 1)
      ((World.init 0 mainThread plainDefaults).plainBorn mainThread o name log mInherit mDetach 1
        stack) :=
  step_construct_plain stack rfl rfl rfl rfl hstack

/-- That thread takes a step of `ThreadEntry`, and the OS call it makes there succeeds. -/
theorem step_entry_plain {s : World O} {th : OsThread O} {birth : Birth O} (hthread : s.threads 1 = some th)
    (hbirth : th.birth = some birth) :
    WorldStep s (.entry 1 0)
      { s with threads := update s.threads 1 (some ((s.objs birth.this).entryStep 0 th)) } :=
  .entry hthread hbirth

omit [DecidableEq O] in
/-- Without inheritance any region apart from the stack of the initial thread will do. -/
theorem stackChosen_first (mDetach : Option Bool) :
    StackChosen (World.init 0 (mainThread : OsThread O) plainDefaults)
      (plainAttr (mainThread : OsThread O).getattr plainDefaults.toPthreadAttr false mDetach) ⟨2000, 100⟩ := by
  refine ⟨rfl, fun t th hth _ a ha => ?_⟩
  have hmain : th.stack = ⟨1000, 100⟩ := by
    by_cases ht : t = 0
    · subst ht
      cases hth
      rfl
    · change update (fun _ => none) 0 _ t = some th at hth
      rw [update_of_ne ht] at hth
      cases hth
  rw [hmain] at ha
  have hbelow : a < 1000 := ha.2.1
  have habove : 2000 ≤ a + 100 := ha.1.2
  omega

end AxzlCore

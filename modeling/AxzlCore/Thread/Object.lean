import AxzlCore.Storage.Ledger
import AxzlCore.Thread.Attributes

/-!
# The `Thread` class

The members of the class, its constructor, and what its move operations, `Join`, `Detach` and the
destructor do to them.  Objects name threads by their ids; which ids are passed to `pthread_join` and
`pthread_detach` is part of what an operation does (`Thread.joinCalls`, `Thread.detachCalls`).

Moving hands over name, logger, flag and id.  It leaves `mSched` behind, and a moved-from name is empty.
-/

set_option autoImplicit false

namespace AxzlCore

open Errno

/-- Thread ids, never used twice. -/
abbrev Tid := Nat

/-- A `Thread` object: the members of the class. -/
structure Thread where
  mName : String
  mLog : LogPtr
  mJoin : Bool
  mTid : Tid
  mSched : Option SchedulerParams
  deriving DecidableEq, Repr

/-- The OS calls that dispose of a thread. -/
inductive OsCall
  | join (tid : Tid)
  | detach (tid : Tid)
  deriving DecidableEq, Repr

/-- The thread a call is about. -/
def OsCall.tid : OsCall → Tid
  | .join tid | .detach tid => tid

namespace Thread

/-- The name of a thread constructed with `name`. -/
def nameOrDefault (name : String) : String := if name.isEmpty then "NotSmartThread" else name

/-- `Thread(name, log, cfg, func, args...)`.  `pthread_create` returns `rcCreate` and the id `tid`; next to the
object the result has the attribute object the thread was created with. -/
def construct (os : AttrResults) (rcCreate : Rc) (name : String) (log : LogPtr) (cfg : Config)
    (self dflt : PthreadAttr) (tid : Tid) : Except SystemError (Thread × PthreadAttr) := do
  let mName := nameOrDefault name
  let mLog := orDefaultLog log
  let attr ← attributes os mName self dflt cfg
  let mSched := cfg.mSched
  throwOn rcCreate mName "Thread" "pthread_create"
  -- from the configuration alone, whatever the base of the attributes was
  let mJoin := !(cfg.mDetach.isSome && cfg.mDetach.getD false)
  return (⟨mName, mLog, mJoin, tid, mSched⟩, attr)

/-- The new object of `Thread(Thread&& from)`: `mSched` has its default. -/
def moveConstruct (src : Thread) : Thread :=
  ⟨src.mName, src.mLog, src.mJoin, src.mTid, none⟩

/-- What a move leaves of its source. -/
def movedFrom (src : Thread) : Thread := { src with mName := "", mLog := none, mJoin := false }

/-- The target of `operator=(Thread&& from)` after its own thread was joined: `mSched` stays. -/
def moveAssign (dst src : Thread) : Thread :=
  { dst with mName := src.mName, mLog := src.mLog, mJoin := src.mJoin, mTid := src.mTid }

/-- The calls of `Join`, also where a move assignment or the destructor makes it. -/
def joinCalls (obj : Thread) : List OsCall := if obj.mJoin then [.join obj.mTid] else []

/-- The calls of `Detach`. -/
def detachCalls (obj : Thread) : List OsCall := if obj.mJoin then [.detach obj.mTid] else []

/-- The object after `Join` or a successful `Detach`: the flag is clear, if it was not already. -/
def released (obj : Thread) : Thread := { obj with mJoin := false }

/-- The bytes of the name that the OS gets: `substr` takes at most fifteen, and `c_str` ends at a null. -/
def osName (mName : String) : List UInt8 :=
  (mName.toUTF8.data.toList.take 15).takeWhile fun byte => byte ≠ 0

/-- What a successful construction leaves. -/
theorem construct_ok {os : AttrResults} {rcCreate : Rc} {name : String} {log : LogPtr} {cfg : Config}
    {self dflt attr : PthreadAttr} {tid : Tid} {obj : Thread}
    (h : construct os rcCreate name log cfg self dflt tid = .ok (obj, attr)) :
    obj = ⟨nameOrDefault name, orDefaultLog log, !(cfg.mDetach.isSome && cfg.mDetach.getD false),
        tid, cfg.mSched⟩ ∧
      attr.detached = cfg.mDetach.getD (if cfg.mInherit then self else dflt).detached ∧
      attr.stackTop = (if cfg.mInherit then self else dflt).stackTop := by
  unfold construct at h
  obtain ⟨attr', hattr, h⟩ := bind_ok h
  obtain ⟨-, h⟩ := throwOn_bind_ok.mp h
  cases h
  exact ⟨rfl, attributes_ok hattr⟩

end Thread

end AxzlCore

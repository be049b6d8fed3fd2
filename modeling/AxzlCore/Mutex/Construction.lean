import AxzlCore.Library.RobustMutex
import AxzlCore.Mutex.Config
import AxzlCore.Storage.Ledger

/-!
# Constructing and destroying a `Mutex`

The handle class of `Mutex.hpp`, its constructors and factories, `Init` and the destructor.  Every OS call
of a construction has a return code chosen by the environment (`os`); a construction succeeds only when
all the codes it looks at are zero.

* `Mutex.init_ok`, `Mutex.construct_ok`, `Mutex.constructShm_ok` — what a successful construction leaves in
  the handle and in the ledger.
* `Mutex.createShm_ok`, `Mutex.openShm_ok` — the two shared-memory factories: `CreateShm` initialises a
  normal robust process-shared mutex and sets the robust flag of its handle; `OpenShm` initialises
  nothing and leaves every flag of its handle clear.
-/

set_option autoImplicit false

namespace AxzlCore

open Errno

/-- A `Mutex` handle: the members of the class. -/
structure Mutex where
  mName : String
  mLog : LogPtr
  mMutex : Addr
  mValid : Bool := false
  mRobust : Bool := false
  mShared : Bool := false
  mSharedCleanup : Bool := false
  deriving DecidableEq, Repr

namespace Mutex

/-- The OS calls made while a mutex is constructed. -/
inductive InitCall
  | attrInit
  | attrSettype
  | attrSetpshared
  | attrSetrobust
  | attrSetprotocol
  | attrSetprioceiling
  | mutexInit
  deriving DecidableEq, Repr

/-- What each of those calls returns. -/
abbrev InitResults := InitCall → Rc

/-- The attribute object `Attributes` fills in.  The ceiling is written under `PTHREAD_PRIO_PROTECT`
only. -/
def attrOf (cfg : Config) : MutexAttr where
  type := cfg.mType
  pshared := cfg.mShare
  robust := cfg.mRobust
  protocol := cfg.mProto
  prioceiling := if cfg.mProto = PTHREAD_PRIO_PROTECT then cfg.mPrioCeiling else 0

/-- The body of `Mutex::Attributes::Attributes`, after its `ScopedPosixAttr` member. -/
def attributes (os : InitResults) (name : String) (cfg : Config) : Build MutexAttr := do
  check (os .attrSettype) name "Attributes" "pthread_mutexattr_settype"
  check (os .attrSetpshared) name "Attributes" "pthread_mutexattr_setpshared"
  check (os .attrSetrobust) name "Attributes" "pthread_mutexattr_setrobust"
  check (os .attrSetprotocol) name "Attributes" "pthread_mutexattr_setprotocol"
  if cfg.mProto = PTHREAD_PRIO_PROTECT then
    check (os .attrSetprioceiling) name "Attributes" "pthread_mutexattr_setprioceiling"
    return attrOf cfg
  else
    return attrOf cfg

/-- The flags `Init` sets once the object is initialised. -/
def initialised (m : Mutex) (cfg : Config) : Mutex :=
  { m with
    mValid := true
    mRobust := decide (cfg.mRobust = PTHREAD_MUTEX_ROBUST)
    mShared := decide (cfg.mShare = PTHREAD_PROCESS_SHARED)
    mSharedCleanup := cfg.mSharedMemDestroy }

/-- `Mutex::Init`. -/
def init (os : InitResults) (m : Mutex) (cfg : Config) : Build Mutex :=
  withScopedPosixAttr (os .attrInit) m.mName "pthread_mutexattr_init failure" do
    let attr ← attributes os m.mName cfg
    check (os .mutexInit) m.mName "Init" "pthread_mutex_init"
    modify fun l => l.objectInit m.mMutex (.mutex attr)
    return m.initialised cfg

/-- A handle before `Init`: name, log and pointer. -/
def named (name : String) (log : LogPtr) (mtx : Addr) : Mutex where
  mName := if name.isEmpty then "NotSmartMtx" else name
  mLog := orDefaultLog log
  mMutex := mtx

/-- `Mutex(name, log, cfg)`: the heap constructor. -/
def construct (os : InitResults) (name : String) (log : LogPtr) (cfg : Config) : Build Mutex := do
  let block := (← get).next
  modify Ledger.new
  -- an `Init` that throws leaves the block behind: the destructor of the handle does not run
  init os (named name log (.heap block)) cfg

/-- `Mutex(name, log, mtx, create, cfg)`: the shared-memory constructor. -/
def constructShm (os : InitResults) (name : String) (log : LogPtr) (mtx : Addr) (create : Bool)
    (cfg : Config) : Build Mutex :=
  -- without `create` there is no `Init`, and every flag keeps its default
  if create then init os (named name log mtx) cfg else pure (named name log mtx)

def make (os : InitResults) (name : String) (log : LogPtr) : Build Mutex :=
  construct os name log {}

def makeRecursive (os : InitResults) (name : String) (log : LogPtr) : Build Mutex :=
  construct os name log (Config.setRecursive {})

/-- `Mutex::CreateShm`. -/
def createShm (os : InitResults) (name : String) (log : LogPtr) (mtx : Addr) (destroy : Bool) :
    Build Mutex :=
  constructShm os name log mtx true
    (if destroy then Config.setSharedMemDestroy {} else Config.setSharedMem {})

/-- `Mutex::OpenShm`: its `destroy` argument is not used. -/
def openShm (os : InitResults) (name : String) (log : LogPtr) (mtx : Addr) (_destroy : Bool) :
    Build Mutex :=
  constructShm os name log mtx false (Config.setSharedMem {})

/-- `Mutex::~Mutex`. -/
def destruct (m : Mutex) (l : Ledger) : Ledger :=
  destructHandle m.mMutex m.mValid m.mShared m.mSharedCleanup l

/-! ## Successful constructions -/

theorem attributes_ok {os : InitResults} {name : String} {cfg : Config} {l l' : Ledger}
    {attr : MutexAttr} (h : attributes os name cfg l = .ok attr l') :
    attr = attrOf cfg ∧ l' = l := by
  unfold attributes at h
  simp only [check_bind_ok] at h
  obtain ⟨-, -, -, -, h⟩ := h
  split at h
  · rw [check_bind_ok] at h
    cases h.2
    exact ⟨rfl, rfl⟩
  · cases h
    exact ⟨rfl, rfl⟩

/-- A successful `Init` sets the flags from the configuration and initialises the object. -/
theorem init_ok {os : InitResults} {m m' : Mutex} {cfg : Config} {l l' : Ledger}
    (h : init os m cfg l = .ok m' l') :
    m' = m.initialised cfg ∧ l' = l.objectInit m.mMutex (.mutex (attrOf cfg)) := by
  unfold init at h
  rw [withScopedPosixAttr_ok] at h
  obtain ⟨-, l₁, hbody, rfl⟩ := h
  change EStateM.bind (attributes os m.mName cfg) _ l.attrInit = _ at hbody
  unfold EStateM.bind at hbody
  split at hbody
  · next attr l₂ hattr =>
      obtain ⟨rfl, rfl⟩ := attributes_ok hattr
      rw [check_bind_ok, modify_bind] at hbody
      cases hbody.2
      exact ⟨rfl, by simp⟩
  · cases hbody

theorem construct_ok {os : InitResults} {name : String} {log : LogPtr} {cfg : Config} {m : Mutex}
    {l l' : Ledger} (h : construct os name log cfg l = .ok m l') :
    m = (named name log (.heap l.next)).initialised cfg ∧
      l' = l.new.objectInit (.heap l.next) (.mutex (attrOf cfg)) :=
  init_ok h

theorem constructShm_ok {os : InitResults} {name : String} {log : LogPtr} {mtx : Addr}
    {create : Bool} {cfg : Config} {m : Mutex} {l l' : Ledger}
    (h : constructShm os name log mtx create cfg l = .ok m l') :
    (create = true ∧ m = (named name log mtx).initialised cfg ∧
        l' = l.objectInit mtx (.mutex (attrOf cfg))) ∨
      (create = false ∧ m = named name log mtx ∧ l' = l) := by
  cases create with
  | true =>
      obtain ⟨hm, hl⟩ := init_ok h
      exact .inl ⟨rfl, hm, hl⟩
  | false =>
      cases h
      exact .inr ⟨rfl, rfl, rfl⟩

/-! ## The two shared-memory factories -/

/-- How the operations of an object with these attributes behave.  The protocol is left out: one that inherits
priorities also makes an implementation check the owner of a normal mutex at its unlock. -/
def behaviour (attr : MutexAttr) : RobustMutex.Attr where
  kind :=
    if attr.type = PTHREAD_MUTEX_RECURSIVE then .recursive
    else if attr.type = PTHREAD_MUTEX_ERRORCHECK then .errorcheck
    else .normal
  robust := decide (attr.robust = PTHREAD_MUTEX_ROBUST)

/-- The behaviour of a mutex initialised by `CreateShm`. -/
def shmBehaviour : RobustMutex.Attr := ⟨.normal, true⟩

/-- `CreateShm` sets the robust flag of its handle and initialises a normal robust mutex. -/
theorem createShm_ok {os : InitResults} {name : String} {log : LogPtr} {mtx : Addr} {destroy : Bool}
    {m : Mutex} {l l' : Ledger} (h : createShm os name log mtx destroy l = .ok m l') :
    m.mRobust = true ∧ ∃ attr, l' = l.objectInit mtx (.mutex attr) ∧
      behaviour attr = shmBehaviour := by
  rcases constructShm_ok h with ⟨-, rfl, rfl⟩ | ⟨hcreate, -, -⟩
  · cases destroy with
    | true => exact ⟨rfl, _, rfl, rfl⟩
    | false => exact ⟨rfl, _, rfl, rfl⟩
  · cases hcreate

/-- `OpenShm` leaves the robust flag of its handle clear. -/
theorem openShm_ok {os : InitResults} {name : String} {log : LogPtr} {mtx : Addr} {destroy : Bool}
    {m : Mutex} {l l' : Ledger} (h : openShm os name log mtx destroy l = .ok m l') :
    m.mRobust = false ∧ l' = l := by
  rcases constructShm_ok h with ⟨hcreate, -, -⟩ | ⟨-, rfl, rfl⟩
  · cases hcreate
  · exact ⟨rfl, rfl⟩

end Mutex

end AxzlCore

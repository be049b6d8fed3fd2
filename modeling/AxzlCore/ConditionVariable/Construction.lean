import AxzlCore.Mutex.Config
import AxzlCore.Storage.Ledger

/-!
# Constructing and destroying a `ConditionVariable`

The handle class of `ConditionVariable.hpp`, its configuration, constructors, factories, `Init` and
destructor.  The class repeats the shape of `Mutex` with a smaller attribute object and without a robust
flag; a creating constructor without a configuration makes a shared object.

* `ConditionVariable.construct_ok`, `ConditionVariable.constructShm_ok` — what a successful construction
  leaves in the handle and in the ledger.
-/

set_option autoImplicit false

namespace AxzlCore

open Errno

/-- A `ConditionVariable` handle: the members of the class. -/
structure ConditionVariable where
  mName : String
  mLog : LogPtr
  mCv : Addr
  mValid : Bool := false
  mShared : Bool := false
  mSharedCleanup : Bool := false
  deriving DecidableEq, Repr

namespace ConditionVariable

/-- `ConditionVariable::Config`. -/
structure Config where
  mShare : Int := PTHREAD_PROCESS_PRIVATE
  mSharedMemDestroy : Bool := false
  deriving DecidableEq, Repr

namespace Config

def setSharedMem (cfg : Config) : Config := { cfg with mShare := PTHREAD_PROCESS_SHARED }

def setSharedMemDestroy (cfg : Config) : Config :=
  { cfg with
    mShare := PTHREAD_PROCESS_SHARED
    mSharedMemDestroy := true }

end Config

/-- The OS calls made while a condition variable is constructed. -/
inductive InitCall
  | attrInit
  | attrSetpshared
  | condInit
  deriving DecidableEq, Repr

/-- What each of those calls returns. -/
abbrev InitResults := InitCall → Rc

/-- The attribute object `Attributes` fills in. -/
def attrOf (cfg : Config) : CondAttr where
  pshared := cfg.mShare

/-- The body of `ConditionVariable::Attributes::Attributes`, after its `ScopedPosixAttr` member. -/
def attributes (os : InitResults) (name : String) (cfg : Config) : Build CondAttr := do
  check (os .attrSetpshared) name "Attributes" "pthread_condattr_setpshared"
  return attrOf cfg

/-- The flags `Init` sets once the object is initialised. -/
def initialised (cv : ConditionVariable) (cfg : Config) : ConditionVariable :=
  { cv with
    mValid := true
    mShared := decide (cfg.mShare = PTHREAD_PROCESS_SHARED)
    mSharedCleanup := cfg.mSharedMemDestroy }

/-- `ConditionVariable::Init`. -/
def init (os : InitResults) (cv : ConditionVariable) (cfg : Config) : Build ConditionVariable :=
  withScopedPosixAttr (os .attrInit) cv.mName "pthread_condattr_init failure" do
    let attr ← attributes os cv.mName cfg
    check (os .condInit) cv.mName "Init" "pthread_cond_init"
    modify fun l => l.objectInit cv.mCv (.cond attr)
    return cv.initialised cfg

/-- A handle before `Init`: name, log and pointer. -/
def named (name : String) (log : LogPtr) (cv : Addr) : ConditionVariable where
  mName := if name.isEmpty then "NotSmartCv" else name
  mLog := orDefaultLog log
  mCv := cv

/-- `ConditionVariable(name, log, cfg)`: the heap constructor. -/
def construct (os : InitResults) (name : String) (log : LogPtr) (cfg : Config) :
    Build ConditionVariable := do
  let block := (← get).next
  modify Ledger.new
  init os (named name log (.heap block)) cfg

/-- `ConditionVariable(name, log, cv, create, cfg)`: the shared-memory constructor. -/
def constructShm (os : InitResults) (name : String) (log : LogPtr) (cv : Addr) (create : Bool)
    (cfg : Config) : Build ConditionVariable :=
  if create then init os (named name log cv) cfg else pure (named name log cv)

def make (os : InitResults) (name : String) (log : LogPtr) : Build ConditionVariable :=
  construct os name log {}

/-- `ConditionVariable::CreateShm`. -/
def createShm (os : InitResults) (name : String) (log : LogPtr) (cv : Addr) (destroy : Bool) :
    Build ConditionVariable :=
  constructShm os name log cv true
    (if destroy then Config.setSharedMemDestroy {} else Config.setSharedMem {})

/-- `ConditionVariable::OpenShm`: its `destroy` argument is not used. -/
def openShm (os : InitResults) (name : String) (log : LogPtr) (cv : Addr) (_destroy : Bool) :
    Build ConditionVariable :=
  constructShm os name log cv false (Config.setSharedMem {})

/-- `ConditionVariable::~ConditionVariable`. -/
def destruct (cv : ConditionVariable) (l : Ledger) : Ledger :=
  destructHandle cv.mCv cv.mValid cv.mShared cv.mSharedCleanup l

/-! ## Successful constructions -/

/-- A successful `Init` sets the flags from the configuration and initialises the object. -/
theorem init_ok {os : InitResults} {cv cv' : ConditionVariable} {cfg : Config} {l l' : Ledger}
    (h : init os cv cfg l = .ok cv' l') :
    cv' = cv.initialised cfg ∧ l' = l.objectInit cv.mCv (.cond (attrOf cfg)) := by
  unfold init at h
  rw [withScopedPosixAttr_ok] at h
  obtain ⟨-, l₁, hbody, rfl⟩ := h
  unfold attributes at hbody
  rw [bind_assoc, check_bind_ok, pure_bind, check_bind_ok, modify_bind] at hbody
  cases hbody.2.2
  exact ⟨rfl, by simp⟩

theorem construct_ok {os : InitResults} {name : String} {log : LogPtr} {cfg : Config}
    {cv : ConditionVariable} {l l' : Ledger} (h : construct os name log cfg l = .ok cv l') :
    cv = (named name log (.heap l.next)).initialised cfg ∧
      l' = l.new.objectInit (.heap l.next) (.cond (attrOf cfg)) :=
  init_ok h

theorem constructShm_ok {os : InitResults} {name : String} {log : LogPtr} {ptr : Addr}
    {create : Bool} {cfg : Config} {cv : ConditionVariable} {l l' : Ledger}
    (h : constructShm os name log ptr create cfg l = .ok cv l') :
    (create = true ∧ cv = (named name log ptr).initialised cfg ∧
        l' = l.objectInit ptr (.cond (attrOf cfg))) ∨
      (create = false ∧ cv = named name log ptr ∧ l' = l) := by
  cases create with
  | true =>
      obtain ⟨hcv, hl⟩ := init_ok h
      exact .inl ⟨rfl, hcv, hl⟩
  | false =>
      cases h
      exact .inr ⟨rfl, rfl, rfl⟩

end ConditionVariable

end AxzlCore

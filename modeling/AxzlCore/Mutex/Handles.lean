import AxzlCore.Mutex.Construction

/-!
# Handles of several processes on one shared mutex

Every process that uses a shared mutex has a handle of its own, made by `CreateShm` or by `OpenShm`.  Of
the flags of a handle only the robust flag matters to the locking operations, and it is exactly what tells
the two factories apart (`MadeBy.mRobust_iff`).
-/

set_option autoImplicit false

namespace AxzlCore

/-- How a process came by its handle on the shared mutex. -/
inductive Origin
  | created
  | opened
  deriving DecidableEq, Repr

/-- `m` is a handle on the memory at `mtx`, from a successful call of the factory `Origin` names. -/
inductive MadeBy (mtx : Addr) : Origin → Mutex → Prop
  | created {os : Mutex.InitResults} {name : String} {log : LogPtr} {destroy : Bool} {l l' : Ledger}
      {m : Mutex} (h : Mutex.createShm os name log mtx destroy l = .ok m l') : MadeBy mtx .created m
  | opened {os : Mutex.InitResults} {name : String} {log : LogPtr} {destroy : Bool} {l l' : Ledger}
      {m : Mutex} (h : Mutex.openShm os name log mtx destroy l = .ok m l') : MadeBy mtx .opened m

/-- The robust flag tells the two factories apart. -/
theorem MadeBy.mRobust_iff {mtx : Addr} {origin : Origin} {m : Mutex} (h : MadeBy mtx origin m) :
    m.mRobust = true ↔ origin = .created := by
  cases h with
  | created h => simp [(Mutex.createShm_ok h).1]
  | opened h => simp [(Mutex.openShm_ok h).1]

/-- A handle on the shared memory `.caller 0`, as either factory makes it. -/
def shmHandle : Origin → Mutex
  | .created => (Mutex.named "shm" none (.caller 0)).initialised (Mutex.Config.setSharedMem {})
  | .opened => Mutex.named "shm" none (.caller 0)

theorem shmHandle_madeBy (origin : Origin) : MadeBy (.caller 0) origin (shmHandle origin) := by
  cases origin with
  | created =>
      have h : Mutex.createShm (fun _ => 0) "shm" none (.caller 0) false Ledger.empty =
          .ok (shmHandle .created) _ := rfl
      exact .created h
  | opened =>
      have h : Mutex.openShm (fun _ => 0) "shm" none (.caller 0) false Ledger.empty =
          .ok (shmHandle .opened) _ := rfl
      exact .opened h

end AxzlCore

import AxzlCore.ConditionVariable.Construction
import AxzlCore.Mutex.Construction

/-!
# Ways to construct a handle

`Mutex` and `ConditionVariable` have the same constructors: on the heap, in memory of the caller with or
without creating the object there, and the two shared-memory factories.  A destructor deletes its object
unless the flag `mShared` is set, and only `Init` sets that flag, from the configuration.

* `Maker` — the ways to construct a handle, common to the two classes.
* `Maker.StorageMatches` — storage kind, creation and sharing line up; `Maker.storageMatches_iff` says that
  this is what makes the destructor's test pick exactly the handles whose constructor allocated.
* `Construction.run_ok` — pointer, sharing flag and storage after a successful construction.
* `Handle.destruct_storage` — what a destructor does to storage.
-/

set_option autoImplicit false

namespace AxzlCore

/-! ## Storage, and what leaves it alone -/

/-- The two ledgers agree on blocks and deletions. -/
structure SameStorage (l l' : Ledger) : Prop where
  next : l'.next = l.next
  blocks : l'.blocks = l.blocks
  deleted : l'.deleted = l.deleted

theorem SameStorage.refl (l : Ledger) : SameStorage l l := ⟨rfl, rfl, rfl⟩

theorem sameStorage_objectInit (l : Ledger) (ptr : Addr) (attr : ObjectAttr) :
    SameStorage l (l.objectInit ptr attr) := ⟨rfl, rfl, rfl⟩

/-- `delete` frees the same block of the same storage. -/
theorem SameStorage.delete {l l' : Ledger} (h : SameStorage l l') (ptr : Addr) :
    SameStorage (l.delete ptr) (l'.delete ptr) where
  next := h.next
  blocks := by
    unfold Ledger.delete
    simp only [h.blocks]
  deleted := congrArg (ptr :: ·) h.deleted

/-- A destructor deletes its pointer unless the handle is shared or the pointer null. -/
theorem destructHandle_storage (ptr : Addr) (mValid mShared mSharedCleanup : Bool) (l : Ledger) :
    SameStorage (if mShared = false ∧ ptr ≠ .null then l.delete ptr else l)
      (destructHandle ptr mValid mShared mSharedCleanup l) := by
  -- destroying the pthread object comes first and is no matter of storage
  have hobjects : SameStorage l
      (if mValid then if !mShared || (mShared && mSharedCleanup) then l.objectDestroy ptr else l
        else l) := by
    split
    · split
      · exact ⟨rfl, rfl, rfl⟩
      · exact .refl l
    · exact .refl l
  unfold destructHandle
  by_cases hdel : mShared = false ∧ ptr ≠ .null
  · have htest : (!mShared && decide (ptr ≠ .null)) = true := by simpa using hdel
    rw [if_pos hdel, if_pos htest]
    exact hobjects.delete ptr
  · have htest : ¬ (!mShared && decide (ptr ≠ .null)) = true := by simpa using hdel
    rw [if_neg hdel, if_neg htest]
    exact hobjects

/-! ## Ways to construct a handle -/

/-- How a handle is constructed.  Memory of the caller is a region or null. -/
inductive Maker (Cfg : Type)
  | heap (cfg : Cfg)
  | shm (mem : Option Nat) (create : Bool) (cfg : Cfg)
  | createShm (mem : Option Nat) (destroy : Bool)
  | openShm (mem : Option Nat) (destroy : Bool)

/-- The pointer to memory of the caller. -/
def memAddr : Option Nat → Addr
  | none => .null
  | some region => .caller region

namespace Maker

variable {Cfg : Type}

/-- Whether the constructor calls `new`. -/
def allocates : Maker Cfg → Bool
  | .heap _ => true
  | _ => false

/-- The pointer a handle gets when block `next` is the next to be allocated. -/
def ptr (next : Nat) : Maker Cfg → Addr
  | .heap _ => .heap next
  | .shm mem _ _ | .createShm mem _ | .openShm mem _ => memAddr mem

/-- Only the heap constructor allocates, and it takes the block it allocated. -/
theorem ptr_of_allocates {maker : Maker Cfg} (halloc : maker.allocates = true) (next : Nat) :
    maker.ptr next = .heap next := by
  cases maker with
  | heap cfg => rfl
  | shm mem create cfg => cases halloc
  | createShm mem destroy => cases halloc
  | openShm mem destroy => cases halloc

theorem memAddr_ne_heap (mem : Option Nat) (b : Nat) : memAddr mem ≠ .heap b := by
  cases mem <;> simp [memAddr]

/-- Memory of the caller is never a block. -/
theorem ptr_of_supplied {maker : Maker Cfg} (halloc : maker.allocates = false) (next b : Nat) :
    maker.ptr next ≠ .heap b := by
  cases maker with
  | heap cfg => cases halloc
  | shm mem create cfg => exact memAddr_ne_heap mem b
  | createShm mem destroy => exact memAddr_ne_heap mem b
  | openShm mem destroy => exact memAddr_ne_heap mem b

/-- The value of `mShared` after the construction. -/
def shared (share : Cfg → Int) : Maker Cfg → Bool
  | .heap cfg => decide (share cfg = PTHREAD_PROCESS_SHARED)
  | .shm _ create cfg => create && decide (share cfg = PTHREAD_PROCESS_SHARED)
  | .createShm _ _ => true
  | .openShm _ _ => false

/-- Storage kind, creation and sharing line up: private on the heap, created shared in the caller's
memory. -/
def StorageMatches (share : Cfg → Int) : Maker Cfg → Prop
  | .heap cfg => share cfg ≠ PTHREAD_PROCESS_SHARED
  | .shm (some _) create cfg => create = true ∧ share cfg = PTHREAD_PROCESS_SHARED
  | .openShm (some _) _ => False
  | _ => True

/-- Storage lines up exactly when the destructor's test picks the handles whose constructor allocated. -/
theorem storageMatches_iff (share : Cfg → Int) (maker : Maker Cfg) (next : Nat) :
    maker.StorageMatches share ↔
      ((maker.shared share = false ∧ maker.ptr next ≠ .null) ↔ maker.allocates = true) := by
  cases maker with
  | heap cfg => simp [StorageMatches, shared, allocates, ptr]
  | shm mem create cfg =>
      cases mem with
      | none => simp [StorageMatches, allocates, ptr, memAddr]
      | some region => simp [StorageMatches, shared, allocates, ptr, memAddr]
  | createShm mem destroy => simp [StorageMatches, shared, allocates]
  | openShm mem destroy =>
      cases mem with
      | none => simp [StorageMatches, allocates, ptr, memAddr]
      | some region => simp [StorageMatches, shared, allocates, ptr, memAddr]

end Maker

/-- A handle of either class. -/
inductive Handle
  | mutex (m : Mutex)
  | cond (cv : ConditionVariable)

namespace Handle

def ptr : Handle → Addr
  | .mutex m => m.mMutex
  | .cond cv => cv.mCv

def shared : Handle → Bool
  | .mutex m => m.mShared
  | .cond cv => cv.mShared

/-- The destructor of the handle. -/
def destruct : Handle → Ledger → Ledger
  | .mutex m => m.destruct
  | .cond cv => cv.destruct

theorem destruct_storage (h : Handle) (l : Ledger) :
    SameStorage (if h.shared = false ∧ h.ptr ≠ .null then l.delete h.ptr else l) (h.destruct l) := by
  cases h with
  | mutex m => exact destructHandle_storage _ _ _ _ l
  | cond cv => exact destructHandle_storage _ _ _ _ l

end Handle

/-- One construction: the class, the return codes of its OS calls, and its arguments. -/
inductive Construction
  | mutex (os : Mutex.InitResults) (name : String) (log : LogPtr) (maker : Maker Mutex.Config)
  | cond (os : ConditionVariable.InitResults) (name : String) (log : LogPtr)
      (maker : Maker ConditionVariable.Config)

namespace Construction

/-- The constructor or factory called. -/
def run : Construction → Build Handle
  | .mutex os name log (.heap cfg) => Handle.mutex <$> Mutex.construct os name log cfg
  | .mutex os name log (.shm mem create cfg) =>
      Handle.mutex <$> Mutex.constructShm os name log (memAddr mem) create cfg
  | .mutex os name log (.createShm mem destroy) =>
      Handle.mutex <$> Mutex.createShm os name log (memAddr mem) destroy
  | .mutex os name log (.openShm mem destroy) =>
      Handle.mutex <$> Mutex.openShm os name log (memAddr mem) destroy
  | .cond os name log (.heap cfg) => Handle.cond <$> ConditionVariable.construct os name log cfg
  | .cond os name log (.shm mem create cfg) =>
      Handle.cond <$> ConditionVariable.constructShm os name log (memAddr mem) create cfg
  | .cond os name log (.createShm mem destroy) =>
      Handle.cond <$> ConditionVariable.createShm os name log (memAddr mem) destroy
  | .cond os name log (.openShm mem destroy) =>
      Handle.cond <$> ConditionVariable.openShm os name log (memAddr mem) destroy

def allocates : Construction → Bool
  | .mutex _ _ _ maker => maker.allocates
  | .cond _ _ _ maker => maker.allocates

def ptr (next : Nat) : Construction → Addr
  | .mutex _ _ _ maker => maker.ptr next
  | .cond _ _ _ maker => maker.ptr next

def shared : Construction → Bool
  | .mutex _ _ _ maker => maker.shared Mutex.Config.mShare
  | .cond _ _ _ maker => maker.shared ConditionVariable.Config.mShare

/-- Storage kind, creation and sharing line up. -/
def StorageMatches : Construction → Prop
  | .mutex _ _ _ maker => maker.StorageMatches Mutex.Config.mShare
  | .cond _ _ _ maker => maker.StorageMatches ConditionVariable.Config.mShare

theorem storageMatches_iff (c : Construction) (next : Nat) :
    c.StorageMatches ↔ ((c.shared = false ∧ c.ptr next ≠ .null) ↔ c.allocates = true) := by
  cases c with
  | mutex os name log maker => exact maker.storageMatches_iff _ next
  | cond os name log maker => exact maker.storageMatches_iff _ next

theorem ptr_of_allocates {c : Construction} (halloc : c.allocates = true) (next : Nat) :
    c.ptr next = .heap next := by
  cases c with
  | mutex os name log maker => exact Maker.ptr_of_allocates halloc next
  | cond os name log maker => exact Maker.ptr_of_allocates halloc next

theorem ptr_of_supplied {c : Construction} (halloc : c.allocates = false) (next b : Nat) :
    c.ptr next ≠ .heap b := by
  cases c with
  | mutex os name log maker => exact Maker.ptr_of_supplied halloc next b
  | cond os name log maker => exact Maker.ptr_of_supplied halloc next b

/-- What a successful construction leaves: the pointer and the sharing flag of the handle, and the
storage. -/
structure Result (c : Construction) (l : Ledger) (h : Handle) (l' : Ledger) : Prop where
  ptr : h.ptr = c.ptr l.next
  shared : h.shared = c.shared
  storage : SameStorage (if c.allocates = true then l.new else l) l'

/-- A construction that does not allocate leaves the storage alone. -/
theorem Result.of_supplied {c : Construction} {l l' : Ledger} {h : Handle}
    (halloc : c.allocates = false) (hptr : h.ptr = c.ptr l.next) (hshared : h.shared = c.shared)
    (hsame : SameStorage l l') : Result c l h l' where
  ptr := hptr
  shared := hshared
  storage := by
    rw [if_neg (by simp [halloc])]
    exact hsame

theorem map_ok {α β : Type} {f : α → β} {x : Build α} {l l' : Ledger} {b : β}
    (h : (f <$> x) l = .ok b l') : ∃ a, x l = .ok a l' ∧ b = f a := by
  change EStateM.map f x l = _ at h
  unfold EStateM.map at h
  split at h
  · next a l₁ hx =>
      cases h
      exact ⟨a, hx, rfl⟩
  · cases h

/-- The result of a shared-memory construction of a mutex. -/
theorem result_mutexShm {os : Mutex.InitResults} {name : String} {log : LogPtr}
    {maker : Maker Mutex.Config} {mem : Option Nat} {create : Bool} {cfg : Mutex.Config} {m : Mutex}
    {l l' : Ledger} (h : Mutex.constructShm os name log (memAddr mem) create cfg l = .ok m l')
    (halloc : maker.allocates = false) (hptr : maker.ptr l.next = memAddr mem)
    (hshared : maker.shared Mutex.Config.mShare =
      (create && decide (cfg.mShare = PTHREAD_PROCESS_SHARED))) :
    Result (.mutex os name log maker) l (.mutex m) l' := by
  rcases Mutex.constructShm_ok h with ⟨rfl, rfl, rfl⟩ | ⟨rfl, rfl, rfl⟩
  · refine .of_supplied halloc hptr.symm ?_ (sameStorage_objectInit _ _ _)
    simpa [Handle.shared, Construction.shared, Mutex.initialised] using hshared.symm
  · refine .of_supplied halloc hptr.symm ?_ (.refl _)
    simpa [Handle.shared, Construction.shared, Mutex.named] using hshared.symm

/-- The result of a shared-memory construction of a condition variable. -/
theorem result_condShm {os : ConditionVariable.InitResults} {name : String} {log : LogPtr}
    {maker : Maker ConditionVariable.Config} {mem : Option Nat} {create : Bool}
    {cfg : ConditionVariable.Config} {cv : ConditionVariable} {l l' : Ledger}
    (h : ConditionVariable.constructShm os name log (memAddr mem) create cfg l = .ok cv l')
    (halloc : maker.allocates = false) (hptr : maker.ptr l.next = memAddr mem)
    (hshared : maker.shared ConditionVariable.Config.mShare =
      (create && decide (cfg.mShare = PTHREAD_PROCESS_SHARED))) :
    Result (.cond os name log maker) l (.cond cv) l' := by
  rcases ConditionVariable.constructShm_ok h with ⟨rfl, rfl, rfl⟩ | ⟨rfl, rfl, rfl⟩
  · refine .of_supplied halloc hptr.symm ?_ (sameStorage_objectInit _ _ _)
    simpa [Handle.shared, Construction.shared, ConditionVariable.initialised] using hshared.symm
  · refine .of_supplied halloc hptr.symm ?_ (.refl _)
    simpa [Handle.shared, Construction.shared, ConditionVariable.named] using hshared.symm

/-- **Every successful construction, by its arguments alone.** -/
theorem run_ok {c : Construction} {h : Handle} {l l' : Ledger} (hrun : c.run l = .ok h l') :
    Result c l h l' := by
  cases c with
  | mutex os name log maker =>
      cases maker with
      | heap cfg =>
          obtain ⟨m, hm, rfl⟩ := map_ok hrun
          obtain ⟨rfl, rfl⟩ := Mutex.construct_ok hm
          exact ⟨rfl, rfl, sameStorage_objectInit _ _ _⟩
      | shm mem create cfg =>
          obtain ⟨m, hm, rfl⟩ := map_ok hrun
          exact result_mutexShm hm rfl rfl rfl
      | createShm mem destroy =>
          obtain ⟨m, hm, rfl⟩ := map_ok hrun
          refine result_mutexShm hm rfl rfl ?_
          cases destroy <;> rfl
      | openShm mem destroy =>
          obtain ⟨m, hm, rfl⟩ := map_ok hrun
          exact result_mutexShm hm rfl rfl rfl
  | cond os name log maker =>
      cases maker with
      | heap cfg =>
          obtain ⟨cv, hcv, rfl⟩ := map_ok hrun
          obtain ⟨rfl, rfl⟩ := ConditionVariable.construct_ok hcv
          exact ⟨rfl, rfl, sameStorage_objectInit _ _ _⟩
      | shm mem create cfg =>
          obtain ⟨cv, hcv, rfl⟩ := map_ok hrun
          exact result_condShm hcv rfl rfl rfl
      | createShm mem destroy =>
          obtain ⟨cv, hcv, rfl⟩ := map_ok hrun
          refine result_condShm hcv rfl rfl ?_
          cases destroy <;> rfl
      | openShm mem destroy =>
          obtain ⟨cv, hcv, rfl⟩ := map_ok hrun
          exact result_condShm hcv rfl rfl rfl

end Construction

end AxzlCore

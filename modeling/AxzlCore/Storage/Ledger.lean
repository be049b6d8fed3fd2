import AxzlCore.Error.SystemError
import Mathlib.Data.List.Basic

/-!
# The storage ledger

What the constructors and destructors of `Mutex` and `ConditionVariable` do to storage: blocks obtained by
`new`, pointers passed to `delete`, initialised attribute objects, and initialised `pthread_mutex_t` /
`pthread_cond_t` objects.  Memory supplied by the caller (shared memory) has addresses of its own and is
never a block.

The two classes share their shape, so the parts they have in common are stated once: the checked OS call
(`check`), the scoped attribute object (`withScopedPosixAttr`) and the destructor (`destructHandle`).
-/

set_option autoImplicit false

namespace AxzlCore

open Errno

/-- A pointer to a pthread object: null, a block obtained by `new`, or memory supplied by the caller. -/
inductive Addr
  | null
  | heap (block : Nat)
  | caller (region : Nat)
  deriving DecidableEq, Repr

/-- `LogPtr`: a shared pointer to a log, possibly null.  Logs are named by numbers. -/
abbrev LogPtr := Option Nat

/-- `GetLog()`: the default log, never null. -/
def getLog : LogPtr := some 0

/-- `log ? log : GetLog()`. -/
def orDefaultLog (log : LogPtr) : LogPtr := if log.isSome then log else getLog

theorem orDefaultLog_ne_none (log : LogPtr) : orDefaultLog log ≠ none := by
  cases log <;> simp [orDefaultLog, getLog]

/-- `pthread_mutexattr_t`. -/
structure MutexAttr where
  type : Int
  pshared : Int
  robust : Int
  protocol : Int
  prioceiling : Int
  deriving DecidableEq, Repr

/-- `pthread_condattr_t`. -/
structure CondAttr where
  pshared : Int
  deriving DecidableEq, Repr

/-- The attributes an initialised pthread object was given. -/
inductive ObjectAttr
  | mutex (attr : MutexAttr)
  | cond (attr : CondAttr)
  deriving DecidableEq, Repr

/-- Storage and OS objects in existence. -/
structure Ledger where
  /-- The number of the next block `new` returns. -/
  next : Nat
  /-- Blocks obtained by `new` and not yet deleted. -/
  blocks : List Nat
  /-- Every pointer passed to `delete`, latest first. -/
  deleted : List Addr
  /-- Attribute objects initialised and not destroyed. -/
  attrs : Nat
  /-- Mutex and condition objects initialised, latest first. -/
  objects : List (Addr × ObjectAttr)
  deriving DecidableEq, Repr

namespace Ledger

/-- Nothing in existence. -/
def empty : Ledger := ⟨0, [], [], 0, []⟩

/-- The ledger after `new`.  Its number tells the block from every other one, also from those deleted by now. -/
def new (l : Ledger) : Ledger := { l with next := l.next + 1, blocks := l.next :: l.blocks }

/-- The ledger after `delete ptr`. -/
def delete (l : Ledger) (ptr : Addr) : Ledger :=
  { l with
    deleted := ptr :: l.deleted
    blocks := match ptr with
      | .heap block => l.blocks.erase block
      | _ => l.blocks }

def attrInit (l : Ledger) : Ledger := { l with attrs := l.attrs + 1 }

def attrDestroy (l : Ledger) : Ledger := { l with attrs := l.attrs - 1 }

def objectInit (l : Ledger) (ptr : Addr) (attr : ObjectAttr) : Ledger :=
  { l with objects := (ptr, attr) :: l.objects }

def objectDestroy (l : Ledger) (ptr : Addr) : Ledger :=
  { l with objects := l.objects.filter fun entry => entry.1 ≠ ptr }

/-- Objects come and go without touching the attribute count. -/
@[simp] theorem attrDestroy_objectInit_attrInit (l : Ledger) (ptr : Addr) (attr : ObjectAttr) :
    ((l.attrInit.objectInit ptr attr).attrDestroy) = l.objectInit ptr attr := by
  simp [attrInit, attrDestroy, objectInit]

end Ledger

/-- Constructor code: it works on the ledger and may throw. -/
abbrev Build := EStateM SystemError Ledger

/-- The test every OS call of a constructor is followed by. -/
def check (rc : Rc) (name loc what : String) : Build Unit :=
  if rc ≠ 0 then throw (throwSystemError name loc rc what) else pure ()

/-- A scope with a destructor: `cleanup` runs however `body` leaves, thrown through or not. -/
def withCleanup {α : Type} (body : Build α) (cleanup : Ledger → Ledger) : Build α := fun l =>
  match body l with
  | .ok a l₁ => .ok a (cleanup l₁)
  | .error e l₁ => .error e (cleanup l₁)

/-- A `ScopedPosixAttr`: initialise the attribute object, run `body`, destroy the object on the way out.
A failing initialisation throws before there is anything to destroy. -/
def withScopedPosixAttr {α : Type} (rcInit : Rc) (name what : String) (body : Build α) : Build α := do
  check rcInit name "ScopedPosixAttr" what
  modify Ledger.attrInit
  withCleanup body Ledger.attrDestroy

/-- The common destructor: destroy the pthread object unless it is shared and kept, then free the storage
unless it is shared. -/
def destructHandle (ptr : Addr) (mValid mShared mSharedCleanup : Bool) (l : Ledger) : Ledger :=
  let l := if mValid then
      if !mShared || (mShared && mSharedCleanup) then l.objectDestroy ptr else l
    else l
  -- whether the storage is freed does not depend on who supplied it
  if !mShared && ptr ≠ .null then l.delete ptr else l

/-! ## Success of constructor code -/

theorem check_bind_ok {α : Type} {rc : Rc} {name loc what : String} {f : Unit → Build α}
    {l l' : Ledger} {a : α} :
    (check rc name loc what >>= f) l = .ok a l' ↔ rc = 0 ∧ f () l = .ok a l' := by
  unfold check
  by_cases hrc : rc = 0
  · subst hrc
    simp only [ne_eq, not_true_eq_false, if_false, pure_bind, true_and]
  · simp only [ne_eq, hrc, not_false_eq_true, if_true, false_and, iff_false]
    intro h
    cases h

theorem modify_bind {α : Type} (g : Ledger → Ledger) (f : Unit → Build α) (l : Ledger) :
    ((modify g : Build Unit) >>= f) l = f () (g l) := rfl

theorem withCleanup_ok {α : Type} {body : Build α} {cleanup : Ledger → Ledger} {l l' : Ledger}
    {a : α} :
    withCleanup body cleanup l = .ok a l' ↔ ∃ l₁, body l = .ok a l₁ ∧ l' = cleanup l₁ := by
  unfold withCleanup
  cases body l with
  | ok b l₁ =>
      constructor
      · intro h
        cases h
        exact ⟨l₁, rfl, rfl⟩
      · rintro ⟨l₂, h, rfl⟩
        cases h
        rfl
  | error e l₁ =>
      constructor
      · intro h
        cases h
      · rintro ⟨l₂, h, -⟩
        cases h

theorem withScopedPosixAttr_ok {α : Type} {rcInit : Rc} {name what : String} {body : Build α}
    {l l' : Ledger} {a : α} :
    withScopedPosixAttr rcInit name what body l = .ok a l' ↔
      rcInit = 0 ∧ ∃ l₁, body l.attrInit = .ok a l₁ ∧ l' = l₁.attrDestroy := by
  unfold withScopedPosixAttr
  rw [check_bind_ok, modify_bind, withCleanup_ok]

end AxzlCore

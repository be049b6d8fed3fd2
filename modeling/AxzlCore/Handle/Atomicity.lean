import AxzlCore.Handle.Making
import AxzlCore.Storage.Transaction

/-!
# What a failed construction leaves behind

`Init` is all or nothing: whichever of its OS calls fails, its attribute object is destroyed and no pthread
object was initialised.  The heap constructors allocate before `Init` and have no destructor to run when it
throws, so the block stays.

* `Mutex.init_allOrNothing`, `ConditionVariable.init_allOrNothing` — the two `Init`s, from any ledger.
* `Construction.run_cases` — every constructor and factory, by whether all the OS calls it makes succeed.
* `built_atomically_iff` — a construction is atomic exactly when it does not allocate, or nothing fails.
-/

set_option autoImplicit false

namespace AxzlCore

open Errno

/-! ## The two classes -/

namespace Mutex

/-- Every OS call that a construction with `cfg` makes succeeds.  The ceiling is set under
`PTHREAD_PRIO_PROTECT` only. -/
structure CallsSucceed (os : InitResults) (cfg : Config) : Prop where
  attrInit : os .attrInit = 0
  attrSettype : os .attrSettype = 0
  attrSetpshared : os .attrSetpshared = 0
  attrSetrobust : os .attrSetrobust = 0
  attrSetprotocol : os .attrSetprotocol = 0
  attrSetprioceiling : cfg.mProto = PTHREAD_PRIO_PROTECT → os .attrSetprioceiling = 0
  mutexInit : os .mutexInit = 0

/-- The attribute setters that are called succeed. -/
def SettersSucceed (os : InitResults) (cfg : Config) : Prop :=
  os .attrSettype = 0 ∧ os .attrSetpshared = 0 ∧ os .attrSetrobust = 0 ∧ os .attrSetprotocol = 0 ∧
    (cfg.mProto = PTHREAD_PRIO_PROTECT → os .attrSetprioceiling = 0)

theorem attributes_allOrNothing (os : InitResults) (name : String) (cfg : Config) (l : Ledger) :
    AllOrNothing (SettersSucceed os cfg) (attributes os name cfg) l (attrOf cfg) l := by
  unfold attributes
  refine .check_then (.check_then (.check_then (.check_then ?_)))
  by_cases hprotect : cfg.mProto = PTHREAD_PRIO_PROTECT
  · rw [if_pos hprotect]
    exact .congr (by simp [hprotect]) (.check_then (.of_eq rfl))
  · rw [if_neg hprotect]
    exact .congr (by simp [hprotect]) (.of_eq rfl)

/-- `Init` initialises the mutex, or throws and leaves nothing. -/
theorem init_allOrNothing (os : InitResults) (m : Mutex) (cfg : Config) (l : Ledger) :
    AllOrNothing (CallsSucceed os cfg) (init os m cfg) l (m.initialised cfg)
      (l.objectInit m.mMutex (.mutex (attrOf cfg))) := by
  unfold init
  rw [← Ledger.attrDestroy_objectInit_attrInit l m.mMutex]
  refine .congr ?_ (.in_scope (.bind_same (attributes_allOrNothing os m.mName cfg l.attrInit)
    (.check_then (.of_eq rfl))))
  constructor
  · rintro ⟨hattr, ⟨htype, hshare, hrobust, hproto, hceiling⟩, hmutex, -⟩
    exact ⟨hattr, htype, hshare, hrobust, hproto, hceiling, hmutex⟩
  · intro h
    exact ⟨h.attrInit, ⟨h.attrSettype, h.attrSetpshared, h.attrSetrobust, h.attrSetprotocol,
      h.attrSetprioceiling⟩, h.mutexInit, trivial⟩

end Mutex

namespace ConditionVariable

/-- Every OS call of a construction succeeds. -/
structure CallsSucceed (os : InitResults) : Prop where
  attrInit : os .attrInit = 0
  attrSetpshared : os .attrSetpshared = 0
  condInit : os .condInit = 0

/-- `Init` initialises the condition variable, or throws and leaves nothing. -/
theorem init_allOrNothing (os : InitResults) (cv : ConditionVariable) (cfg : Config) (l : Ledger) :
    AllOrNothing (CallsSucceed os) (init os cv cfg) l (cv.initialised cfg)
      (l.objectInit cv.mCv (.cond (attrOf cfg))) := by
  unfold init attributes
  rw [← Ledger.attrDestroy_objectInit_attrInit l cv.mCv]
  refine .congr ?_ (.in_scope (.bind_same (.check_then (.of_eq rfl)) (.check_then (.of_eq rfl))))
  constructor
  · rintro ⟨hattr, ⟨hshare, -⟩, hcond, -⟩
    exact ⟨hattr, hshare, hcond⟩
  · intro h
    exact ⟨h.attrInit, ⟨h.attrSetpshared, trivial⟩, h.condInit, trivial⟩

end ConditionVariable

/-! ## All constructors -/

namespace Maker

variable {Cfg : Type}

/-- The configuration `Init` is called with, if it is called; `created` is the one `CreateShm` makes. -/
def initConfig (created : Bool → Cfg) : Maker Cfg → Option Cfg
  | .heap cfg => some cfg
  | .shm _ create cfg => if create then some cfg else none
  | .createShm _ destroy => some (created destroy)
  | .openShm _ _ => none

end Maker

namespace Mutex

/-- The configuration of `CreateShm`. -/
def createdConfig (destroy : Bool) : Config :=
  if destroy then Config.setSharedMemDestroy {} else Config.setSharedMem {}

end Mutex

namespace ConditionVariable

/-- The configuration of `CreateShm`. -/
def createdConfig (destroy : Bool) : Config :=
  if destroy then Config.setSharedMemDestroy {} else Config.setSharedMem {}

end ConditionVariable

namespace Construction

/-- Whether the construction initialises a pthread object. -/
def creates : Construction → Bool
  | .mutex _ _ _ maker => (maker.initConfig Mutex.createdConfig).isSome
  | .cond _ _ _ maker => (maker.initConfig ConditionVariable.createdConfig).isSome

/-- Every OS call that the construction makes succeeds. -/
def CallsSucceed : Construction → Prop
  | .mutex os _ _ maker => ∀ cfg, maker.initConfig Mutex.createdConfig = some cfg → Mutex.CallsSucceed os cfg
  | .cond os _ _ maker => maker.initConfig ConditionVariable.createdConfig ≠ none →
      ConditionVariable.CallsSucceed os

/-- The ledger `Init` starts from: the heap constructors have allocated by then. -/
def start (c : Construction) (l : Ledger) : Ledger := if c.allocates then l.new else l

end Construction

/-- Nothing but the name of the next block has changed. -/
structure SameResources (l l' : Ledger) : Prop where
  blocks : l'.blocks = l.blocks
  deleted : l'.deleted = l.deleted
  attrs : l'.attrs = l.attrs
  objects : l'.objects = l.objects

/-- What a successful construction adds: its block, if it allocates, and its object, if it creates one. -/
structure OnlyAdds (c : Construction) (l l' : Ledger) : Prop where
  blocks : l'.blocks = if c.allocates then l.next :: l.blocks else l.blocks
  deleted : l'.deleted = l.deleted
  attrs : l'.attrs = l.attrs
  objects : ∃ attr, l'.objects = (if c.creates then [(c.ptr l.next, attr)] else []) ++ l.objects

namespace Construction

/-- A construction that creates its object adds that object. -/
theorem onlyAdds_create {c : Construction} (hcreates : c.creates = true) (l : Ledger)
    (attr : ObjectAttr) : OnlyAdds c l ((c.start l).objectInit (c.ptr l.next) attr) := by
  unfold start
  refine ⟨?_, ?_, ?_, attr, ?_⟩
  · cases c.allocates <;> rfl
  · cases c.allocates <;> rfl
  · cases c.allocates <;> rfl
  · rw [if_pos hcreates]
    cases c.allocates <;> rfl

/-- One that opens an object of the caller adds nothing. -/
theorem onlyAdds_open {c : Construction} (hcreates : c.creates = false) (halloc : c.allocates = false)
    (l : Ledger) : OnlyAdds c l (c.start l) := by
  have hstart : c.start l = l := if_neg (by simp [halloc])
  rw [hstart]
  refine ⟨?_, rfl, rfl, .mutex ⟨0, 0, 0, 0, 0⟩, ?_⟩
  · rw [if_neg (by simp [halloc])]
  · rw [if_neg (by simp [hcreates])]
    rfl

/-- Only a constructor that creates its object allocates. -/
theorem creates_of_allocates {c : Construction} (halloc : c.allocates = true) : c.creates = true := by
  cases c with
  | mutex os name log maker =>
      cases maker with
      | heap cfg => rfl
      | shm mem create cfg => cases halloc
      | createShm mem destroy => cases halloc
      | openShm mem destroy => cases halloc
  | cond os name log maker =>
      cases maker with
      | heap cfg => rfl
      | shm mem create cfg => cases halloc
      | createShm mem destroy => cases halloc
      | openShm mem destroy => cases halloc

/-- Every construction of a mutex, as `Init` on the handle with name, log and pointer. -/
theorem run_mutex_eq (os : Mutex.InitResults) (name : String) (log : LogPtr)
    (maker : Maker Mutex.Config) (l : Ledger) :
    (Construction.mutex os name log maker).run l =
      (Handle.mutex <$> (maker.initConfig Mutex.createdConfig).elim
        (pure (Mutex.named name log (maker.ptr l.next)))
        fun cfg => Mutex.init os (Mutex.named name log (maker.ptr l.next)) cfg)
      ((Construction.mutex os name log maker).start l) := by
  cases maker with
  | heap cfg => rfl
  | shm mem create cfg => cases create <;> rfl
  | createShm mem destroy => rfl
  | openShm mem destroy => rfl

/-- The same for a condition variable. -/
theorem run_cond_eq (os : ConditionVariable.InitResults) (name : String) (log : LogPtr)
    (maker : Maker ConditionVariable.Config) (l : Ledger) :
    (Construction.cond os name log maker).run l =
      (Handle.cond <$> (maker.initConfig ConditionVariable.createdConfig).elim
        (pure (ConditionVariable.named name log (maker.ptr l.next)))
        fun cfg => ConditionVariable.init os (ConditionVariable.named name log (maker.ptr l.next)) cfg)
      ((Construction.cond os name log maker).start l) := by
  cases maker with
  | heap cfg => rfl
  | shm mem create cfg => cases create <;> rfl
  | createShm mem destroy => rfl
  | openShm mem destroy => rfl

/-- What follows from an all-or-nothing body. -/
theorem cases_of_allOrNothing {c : Construction} {l l₁ : Ledger} {x : Build Handle} {ok : Prop}
    {h : Handle} (hrun : c.run l = x (c.start l)) (hx : AllOrNothing ok x (c.start l) h l₁)
    (hok : ok ↔ c.CallsSucceed) (hadds : OnlyAdds c l l₁) :
    (c.CallsSucceed ∧ ∃ h l', c.run l = .ok h l' ∧ OnlyAdds c l l') ∨
      (¬ c.CallsSucceed ∧ ∃ e, e.IsThrown ∧ c.run l = .error e (c.start l)) := by
  rw [hrun, ← hok]
  rcases hx with ⟨hsucceed, hx⟩ | ⟨hnot, e, hthrown, hx⟩
  · exact .inl ⟨hsucceed, h, l₁, hx, hadds⟩
  · exact .inr ⟨hnot, e, hthrown, hx⟩

/-- **Every constructor and factory**: when all the OS calls it makes succeed it adds its block and its
object, and else it throws and leaves what was there when `Init` started. -/
theorem run_cases (c : Construction) (l : Ledger) :
    (c.CallsSucceed ∧ ∃ h l', c.run l = .ok h l' ∧ OnlyAdds c l l') ∨
      (¬ c.CallsSucceed ∧ ∃ e, e.IsThrown ∧ c.run l = .error e (c.start l)) := by
  cases c with
  | mutex os name log maker =>
      have hrun := run_mutex_eq os name log maker l
      cases hcfg : maker.initConfig Mutex.createdConfig with
      | none =>
          rw [hcfg] at hrun
          refine cases_of_allOrNothing hrun (.map (.of_eq rfl) Handle.mutex) ?_ (onlyAdds_open ?_ ?_ l)
          · simp [CallsSucceed, hcfg]
          · simp [creates, hcfg]
          · by_contra halloc
            have hcreates := creates_of_allocates (Bool.not_eq_false _ ▸ halloc)
            simp [creates, hcfg] at hcreates
      | some cfg =>
          rw [hcfg] at hrun
          refine cases_of_allOrNothing hrun (.map (Mutex.init_allOrNothing os _ cfg _) Handle.mutex) ?_
            (onlyAdds_create ?_ l _)
          · simp [CallsSucceed, hcfg]
          · simp [creates, hcfg]
  | cond os name log maker =>
      have hrun := run_cond_eq os name log maker l
      cases hcfg : maker.initConfig ConditionVariable.createdConfig with
      | none =>
          rw [hcfg] at hrun
          refine cases_of_allOrNothing hrun (.map (.of_eq rfl) Handle.cond) ?_ (onlyAdds_open ?_ ?_ l)
          · simp [CallsSucceed, hcfg]
          · simp [creates, hcfg]
          · by_contra halloc
            have hcreates := creates_of_allocates (Bool.not_eq_false _ ▸ halloc)
            simp [creates, hcfg] at hcreates
      | some cfg =>
          rw [hcfg] at hrun
          refine cases_of_allOrNothing hrun
            (.map (ConditionVariable.init_allOrNothing os _ cfg _) Handle.cond) ?_ (onlyAdds_create ?_ l _)
          · simp [CallsSucceed, hcfg]
          · simp [creates, hcfg]

end Construction

/-- A construction that throws leaves nothing behind, and one that succeeds leaves its object, and its block
where it allocates. -/
structure BuiltAtomically (c : Construction) (l : Ledger) : Prop where
  throws : ¬ c.CallsSucceed → ∃ e l', c.run l = .error e l'
  unchanged : ∀ e l', c.run l = .error e l' → SameResources l l'
  adds : ∀ h l', c.run l = .ok h l' → OnlyAdds c l l'

/-- **Exactly when a construction is atomic.**  Whatever the class, the way of construction, the
configuration and the failing call: when it does not allocate, or none of its OS calls fails. -/
theorem built_atomically_iff (c : Construction) (l : Ledger) :
    BuiltAtomically c l ↔ (c.allocates = true → c.CallsSucceed) := by
  rcases c.run_cases l with ⟨hok, h, l', hrun, hadds⟩ | ⟨hnot, e, -, hrun⟩
  · refine iff_of_true ⟨fun hfail => absurd hok hfail, ?_, ?_⟩ fun _ => hok
    · intro e l₁ herror
      rw [hrun] at herror
      cases herror
    · intro h₁ l₁ hok₁
      rw [hrun] at hok₁
      cases hok₁
      exact hadds
  · constructor
    · intro hatomic halloc
      -- the block the constructor allocated is still there
      have hblocks := (hatomic.unchanged _ _ hrun).blocks
      unfold Construction.start at hblocks
      rw [if_pos halloc] at hblocks
      exact absurd hblocks (List.cons_ne_self l.next l.blocks)
    · intro hcond
      have halloc : ¬ c.allocates = true := fun halloc => hnot (hcond halloc)
      refine ⟨fun _ => ⟨e, _, hrun⟩, ?_, ?_⟩
      · intro e₁ l₁ herror
        rw [hrun] at herror
        cases herror
        unfold Construction.start
        rw [if_neg halloc]
        exact ⟨rfl, rfl, rfl, rfl⟩
      · intro h₁ l₁ hok
        rw [hrun] at hok
        cases hok

/-- A heap mutex whose `pthread_mutex_init` fails leaves its block behind. -/
theorem failed_heap_mutex_leaks :
    ∃ e l', (Construction.mutex (fun call => if call = .mutexInit then EAGAIN else 0) "queue" none
        (.heap {})).run Ledger.empty = .error e l' ∧ l'.blocks = [0] ∧
      ¬ BuiltAtomically (.mutex (fun call => if call = .mutexInit then EAGAIN else 0) "queue" none
        (.heap {})) Ledger.empty := by
  refine ⟨_, _, rfl, rfl, fun hatomic => ?_⟩
  have hblocks := (hatomic.unchanged _ _ rfl).blocks
  exact absurd hblocks (by decide)

end AxzlCore

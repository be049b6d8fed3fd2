import AxzlCore.Handle.Lifetime

/-!
# Chains of configuration setters

A configuration is built by setters called one after the other on a default `Config`.  No setter clears what
another one set: each field that matters to construction and destruction is a flag, set from the first
setter that sets it on (`foldl_flag_iff`).  `Init` copies two of these flags into the handle, and the
destructor reads them much later.

* `Mutex.Config.ofChain`, `ConditionVariable.Config.ofChain` — the configuration a chain builds.
* `Mutex.ofChain_shared_iff`, `Mutex.ofChain_destroy_iff`, `Mutex.ofChain_robust_iff` — its flags, by the
  setters of the chain.
* `chain_decides_iff` — the last setter about shared memory decides about destruction, except where
  `SetSharedMem` comes after `SetSharedMemDestroy`.
-/

set_option autoImplicit false

namespace AxzlCore

open Function Runs

/-- A flag that some steps set and no step clears is set at the end of a chain of steps exactly when it was
set at its start or one of the steps sets it. -/
theorem foldl_flag_iff {C S : Type} (step : C → S → C) (flag : C → Prop) (sets : S → Prop)
    (hstep : ∀ cfg setter, flag (step cfg setter) ↔ flag cfg ∨ sets setter) (chain : List S) (cfg : C) :
    flag (chain.foldl step cfg) ↔ flag cfg ∨ ∃ setter ∈ chain, sets setter := by
  induction chain generalizing cfg with
  | nil => simp
  | cons setter chain ih =>
      rw [List.foldl_cons, ih, hstep, or_assoc]
      simp

/-- A flag that is not set at the start is set at the end exactly when one of the steps sets it. -/
theorem foldl_flag_iff_of_unset {C S : Type} (step : C → S → C) (flag : C → Prop) (sets : S → Prop)
    (hstep : ∀ cfg setter, flag (step cfg setter) ↔ flag cfg ∨ sets setter) (chain : List S) {cfg : C}
    (hunset : ¬ flag cfg) : flag (chain.foldl step cfg) ↔ ∃ setter ∈ chain, sets setter :=
  (foldl_flag_iff step flag sets hstep chain cfg).trans (or_iff_right hunset)

/-- The setters about shared memory, which both classes have. -/
inductive SharedSetter
  | sharedMem
  | sharedMemDestroy
  deriving DecidableEq, Repr

/-- Some setter of a chain is about shared memory. -/
theorem exists_shared_iff {S : Type} (shared? : S → Option SharedSetter) (chain : List S) :
    (∃ setter ∈ chain, (shared? setter).isSome) ↔ chain.filterMap shared? ≠ [] := by
  rw [ne_eq, List.filterMap_eq_nil_iff]
  constructor
  · rintro ⟨setter, hmem, hsome⟩ hnone
    rw [hnone setter hmem] at hsome
    cases hsome
  · intro hnot
    by_contra hall
    refine hnot fun setter hmem => ?_
    cases hshared : shared? setter with
    | none => rfl
    | some shared => exact absurd ⟨setter, hmem, by simp [hshared]⟩ hall

namespace Mutex

/-- The setters of `Mutex::Config`. -/
inductive Setter
  | setRecursive
  | setSharedMem
  | setSharedMemDestroy
  | setRobust
  | setPrioInherit
  | setErrorCheck
  deriving DecidableEq, Repr

namespace Setter

/-- The call of the setter. -/
def apply (cfg : Config) : Setter → Config
  | .setRecursive => cfg.setRecursive
  | .setSharedMem => cfg.setSharedMem
  | .setSharedMemDestroy => cfg.setSharedMemDestroy
  | .setRobust => cfg.setRobust
  | .setPrioInherit => cfg.setPrioInherit
  | .setErrorCheck => cfg.setErrorCheck

def shared? : Setter → Option SharedSetter
  | .setSharedMem => some .sharedMem
  | .setSharedMemDestroy => some .sharedMemDestroy
  | .setRecursive | .setRobust | .setPrioInherit | .setErrorCheck => none

/-- The setters that ask for a robust mutex. -/
def MakesRobust : Setter → Prop
  | .setSharedMem | .setSharedMemDestroy | .setRobust => True
  | .setRecursive | .setPrioInherit | .setErrorCheck => False

end Setter

/-- `Config { }` followed by a chain of setters. -/
def Config.ofChain (chain : List Setter) : Config := chain.foldl Setter.apply {}

theorem ofChain_shared_iff (chain : List Setter) :
    (Config.ofChain chain).mShare = PTHREAD_PROCESS_SHARED ↔ chain.filterMap Setter.shared? ≠ [] := by
  have hstep : ∀ (cfg : Config) (setter : Setter),
      (setter.apply cfg).mShare = PTHREAD_PROCESS_SHARED ↔
        cfg.mShare = PTHREAD_PROCESS_SHARED ∨ setter.shared?.isSome := by
    intro cfg setter
    cases setter <;> simp [Setter.apply, Setter.shared?, Config.setRecursive, Config.setSharedMem,
      Config.setSharedMemDestroy, Config.setRobust, Config.setPrioInherit, Config.setErrorCheck]
  rw [← exists_shared_iff]
  exact foldl_flag_iff_of_unset Setter.apply (fun cfg => cfg.mShare = PTHREAD_PROCESS_SHARED)
    (fun setter => setter.shared?.isSome) hstep chain (by decide)

theorem ofChain_destroy_iff (chain : List Setter) :
    (Config.ofChain chain).mSharedMemDestroy = true ↔
      .sharedMemDestroy ∈ chain.filterMap Setter.shared? := by
  have hstep : ∀ (cfg : Config) (setter : Setter),
      (setter.apply cfg).mSharedMemDestroy = true ↔
        cfg.mSharedMemDestroy = true ∨ setter.shared? = some .sharedMemDestroy := by
    intro cfg setter
    cases setter <;> simp [Setter.apply, Setter.shared?, Config.setRecursive, Config.setSharedMem,
      Config.setSharedMemDestroy, Config.setRobust, Config.setPrioInherit, Config.setErrorCheck]
  rw [List.mem_filterMap]
  exact foldl_flag_iff_of_unset Setter.apply (fun cfg => cfg.mSharedMemDestroy = true)
    (fun setter => setter.shared? = some .sharedMemDestroy) hstep chain (by decide)

theorem ofChain_robust_iff (chain : List Setter) :
    (Config.ofChain chain).mRobust = PTHREAD_MUTEX_ROBUST ↔ ∃ setter ∈ chain, setter.MakesRobust := by
  have hstep : ∀ (cfg : Config) (setter : Setter),
      (setter.apply cfg).mRobust = PTHREAD_MUTEX_ROBUST ↔
        cfg.mRobust = PTHREAD_MUTEX_ROBUST ∨ setter.MakesRobust := by
    intro cfg setter
    cases setter <;> simp [Setter.apply, Setter.MakesRobust, Config.setRecursive, Config.setSharedMem,
      Config.setSharedMemDestroy, Config.setRobust, Config.setPrioInherit, Config.setErrorCheck]
  exact foldl_flag_iff_of_unset Setter.apply (fun cfg => cfg.mRobust = PTHREAD_MUTEX_ROBUST)
    Setter.MakesRobust hstep chain (by decide)

end Mutex

namespace ConditionVariable

/-- The call of a setter of `ConditionVariable::Config`. -/
def Config.apply (cfg : Config) : SharedSetter → Config
  | .sharedMem => cfg.setSharedMem
  | .sharedMemDestroy => cfg.setSharedMemDestroy

/-- `Config { }` followed by a chain of setters. -/
def Config.ofChain (chain : List SharedSetter) : Config := chain.foldl Config.apply {}

theorem ofChain_shared_iff (chain : List SharedSetter) :
    (Config.ofChain chain).mShare = PTHREAD_PROCESS_SHARED ↔ chain ≠ [] := by
  have hstep : ∀ (cfg : Config) (setter : SharedSetter),
      (cfg.apply setter).mShare = PTHREAD_PROCESS_SHARED ↔
        cfg.mShare = PTHREAD_PROCESS_SHARED ∨ (some setter).isSome := by
    intro cfg setter
    cases setter <;> simp [Config.apply, Config.setSharedMem, Config.setSharedMemDestroy]
  have hsome := exists_shared_iff some chain
  rw [List.filterMap_some] at hsome
  rw [← hsome]
  exact foldl_flag_iff_of_unset Config.apply (fun cfg => cfg.mShare = PTHREAD_PROCESS_SHARED)
    (fun setter => (some setter).isSome) hstep chain (by decide)

theorem ofChain_destroy_iff (chain : List SharedSetter) :
    (Config.ofChain chain).mSharedMemDestroy = true ↔ .sharedMemDestroy ∈ chain := by
  have hstep : ∀ (cfg : Config) (setter : SharedSetter),
      (cfg.apply setter).mSharedMemDestroy = true ↔
        cfg.mSharedMemDestroy = true ∨ setter = .sharedMemDestroy := by
    intro cfg setter
    cases setter <;> simp [Config.apply, Config.setSharedMem, Config.setSharedMemDestroy]
  have hchain := foldl_flag_iff_of_unset Config.apply (fun cfg => cfg.mSharedMemDestroy = true)
    (· = .sharedMemDestroy) hstep chain (show ¬ (({} : Config).mSharedMemDestroy = true) by decide)
  refine hchain.trans ?_
  simp

end ConditionVariable

/-! ## A construction with a chain -/

/-- Where a creating constructor puts its object: on the heap, or in memory of the caller. -/
inductive Place
  | heap
  | memory (mem : Option Nat)

def Place.maker {Cfg : Type} (cfg : Cfg) : Place → Maker Cfg
  | .heap => .heap cfg
  | .memory mem => .shm mem true cfg

/-- A creating construction whose configuration is a chain of setters. -/
inductive ChainBuild
  | mutex (os : Mutex.InitResults) (name : String) (log : LogPtr) (place : Place)
      (chain : List Mutex.Setter)
  | cond (os : ConditionVariable.InitResults) (name : String) (log : LogPtr) (place : Place)
      (chain : List SharedSetter)

namespace ChainBuild

def construction : ChainBuild → Construction
  | .mutex os name log place chain => .mutex os name log (place.maker (Mutex.Config.ofChain chain))
  | .cond os name log place chain => .cond os name log (place.maker (ConditionVariable.Config.ofChain chain))

/-- The setters of the chain that are about shared memory, in order. -/
def sharedSetters : ChainBuild → List SharedSetter
  | .mutex _ _ _ _ chain => chain.filterMap Mutex.Setter.shared?
  | .cond _ _ _ _ chain => chain

/-- The object created is the one the chain asks for: a mutex that is robust exactly when one of the setters
makes it so, or a condition variable. -/
def Creates : ChainBuild → ObjectAttr → Prop
  | .mutex _ _ _ _ chain, .mutex attr =>
      attr.robust = PTHREAD_MUTEX_ROBUST ↔ ∃ setter ∈ chain, setter.MakesRobust
  | .cond _ _ _ _ _, .cond _ => True
  | _, _ => False

end ChainBuild

/-- How often a destructor should destroy the object, by the last setter about shared memory. -/
def destroysWanted (setters : List SharedSetter) : Nat :=
  if setters.getLast? = some .sharedMem then 0 else 1

/-- `SetSharedMem` does not have the last word where `SetSharedMemDestroy` was called. -/
def DestroyNotRevoked (setters : List SharedSetter) : Prop :=
  setters.getLast? = some .sharedMem → .sharedMemDestroy ∉ setters

/-- The chain decides: about the object the transition `tr` creates for `o`, and about the calls by which the
destructor of `o` destroys that object over the whole run. -/
structure ChainDecides {O : Type} [DecidableEq O] (build : ChainBuild) (o : O)
    (tr : Transition (Store O) (StoreAction O)) (trs : List (Transition (Store O) (StoreAction O))) :
    Prop where
  created : ∃ attr, build.Creates attr ∧
    tr.post.ledger.objects = (build.construction.ptr tr.pre.ledger.next, attr) :: tr.pre.ledger.objects
  destroyed : (dtorCallsOf o trs).count (.objectDestroy (build.construction.ptr tr.pre.ledger.next)) =
    destroysWanted build.sharedSetters

section Build

variable {l l' : Ledger} {h : Handle}

/-- A creating construction of a mutex initialises its object and copies the flags. -/
theorem mutex_creating_ok {os : Mutex.InitResults} {name : String} {log : LogPtr} {place : Place}
    {cfg : Mutex.Config} (hrun : (Construction.mutex os name log (place.maker cfg)).run l = .ok h l') :
    l'.objects = ((place.maker cfg).ptr l.next, .mutex (Mutex.attrOf cfg)) :: l.objects ∧
      h.dtorCalls = dtorCalls ((place.maker cfg).ptr l.next) true
        (decide (cfg.mShare = PTHREAD_PROCESS_SHARED)) cfg.mSharedMemDestroy := by
  cases place with
  | heap =>
      obtain ⟨m, hm, rfl⟩ := Construction.map_ok hrun
      obtain ⟨rfl, rfl⟩ := Mutex.construct_ok hm
      exact ⟨rfl, rfl⟩
  | memory mem =>
      obtain ⟨m, hm, rfl⟩ := Construction.map_ok hrun
      rcases Mutex.constructShm_ok hm with ⟨-, rfl, rfl⟩ | ⟨hcreate, -, -⟩
      · exact ⟨rfl, rfl⟩
      · cases hcreate

/-- So does one of a condition variable. -/
theorem cond_creating_ok {os : ConditionVariable.InitResults} {name : String} {log : LogPtr}
    {place : Place} {cfg : ConditionVariable.Config}
    (hrun : (Construction.cond os name log (place.maker cfg)).run l = .ok h l') :
    l'.objects = ((place.maker cfg).ptr l.next, .cond (ConditionVariable.attrOf cfg)) :: l.objects ∧
      h.dtorCalls = dtorCalls ((place.maker cfg).ptr l.next) true
        (decide (cfg.mShare = PTHREAD_PROCESS_SHARED)) cfg.mSharedMemDestroy := by
  cases place with
  | heap =>
      obtain ⟨cv, hcv, rfl⟩ := Construction.map_ok hrun
      obtain ⟨rfl, rfl⟩ := ConditionVariable.construct_ok hcv
      exact ⟨rfl, rfl⟩
  | memory mem =>
      obtain ⟨cv, hcv, rfl⟩ := Construction.map_ok hrun
      rcases ConditionVariable.constructShm_ok hcv with ⟨-, rfl, rfl⟩ | ⟨hcreate, -, -⟩
      · exact ⟨rfl, rfl⟩
      · cases hcreate

/-- What a chain leads to: an object as it asks for, and a destructor that destroys it unless there are
setters about shared memory and none of them is `SetSharedMemDestroy`. -/
theorem ChainBuild.run_ok {build : ChainBuild} (hrun : build.construction.run l = .ok h l') :
    (∃ attr, build.Creates attr ∧ l'.objects = (build.construction.ptr l.next, attr) :: l.objects) ∧
      h.dtorCalls.count (.objectDestroy (build.construction.ptr l.next)) =
        if build.sharedSetters = [] ∨ .sharedMemDestroy ∈ build.sharedSetters then 1 else 0 := by
  cases build with
  | mutex os name log place chain =>
      obtain ⟨hobjects, hcalls⟩ := mutex_creating_ok hrun
      refine ⟨⟨.mutex (Mutex.attrOf _), Mutex.ofChain_robust_iff chain, hobjects⟩, ?_⟩
      have hshared := (Mutex.ofChain_shared_iff chain).not.trans not_not
      rw [hcalls]
      exact (count_dtorCalls _ _ _).trans
        (if_congr (or_congr (decide_eq_false_iff_not.trans hshared) (Mutex.ofChain_destroy_iff chain)) rfl rfl)
  | cond os name log place chain =>
      obtain ⟨hobjects, hcalls⟩ := cond_creating_ok hrun
      refine ⟨⟨.cond (ConditionVariable.attrOf _), trivial, hobjects⟩, ?_⟩
      have hshared := (ConditionVariable.ofChain_shared_iff chain).not.trans not_not
      have hdestroy := ConditionVariable.ofChain_destroy_iff chain
      rw [hcalls]
      exact (count_dtorCalls _ _ _).trans
        (if_congr (or_congr (decide_eq_false_iff_not.trans hshared) hdestroy) rfl rfl)

end Build

/-- The flags decide as the last setter does, unless it is `SetSharedMem` after a `SetSharedMemDestroy`. -/
theorem flags_eq_wanted_iff (setters : List SharedSetter) :
    (if setters = [] ∨ .sharedMemDestroy ∈ setters then 1 else 0) = destroysWanted setters ↔
      DestroyNotRevoked setters := by
  unfold destroysWanted DestroyNotRevoked
  cases hlast : setters.getLast? with
  | none =>
      rw [List.getLast?_eq_none_iff] at hlast
      simp [hlast]
  | some setter =>
      have hmem : setter ∈ setters := List.mem_of_getLast? hlast
      have hne : setters ≠ [] := List.ne_nil_of_mem hmem
      cases setter with
      | sharedMem => simp [hne]
      | sharedMemDestroy => simp [hmem]

/-- **Exactly when the chain decides.**  In every run in which an object is constructed with a chain of
setters, of any length and in any order, and is gone in the end: the last setter about shared memory
decides whether its destructor destroys the pthread object, if and only if it is not a `SetSharedMem` that
comes after a `SetSharedMemDestroy`. -/
theorem chain_decides_iff {O : Type} [DecidableEq O]
    {trs : List (Transition (Store O) (StoreAction O))} {s : Store O}
    (hrun : Run StoreStep Store.init trs s) {o : O} (hgone : s.slot o = .gone)
    {tr : Transition (Store O) (StoreAction O)} (htr : tr ∈ trs) {build : ChainBuild}
    (hact : tr.act = .construct o build.construction) :
    ChainDecides build o tr trs ↔ DestroyNotRevoked build.sharedSetters := by
  obtain ⟨h, hbuild, hcalls⟩ := dtorCalls_of_run hrun hgone htr hact
  obtain ⟨hcreated, hcount⟩ := ChainBuild.run_ok hbuild
  rw [← hcalls] at hcount
  rw [← flags_eq_wanted_iff, ← hcount]
  exact ⟨fun hdecides => hdecides.destroyed, fun hdestroyed => ⟨hcreated, hdestroyed⟩⟩

/-! ## Two lives -/

/-- A handle that is constructed with a chain and destroyed, with nothing in between. -/
theorem run_chained_life {build : ChainBuild} {h : Handle} {l : Ledger}
    (hbuild : build.construction.run Ledger.empty = .ok h l) :
    ∃ trs s, Run StoreStep (Store.init : Store Unit) trs s ∧ s.slot () = .gone ∧
      ∃ tr ∈ trs, tr.act = .construct () build.construction := by
  have hrun := run_life (s := (Store.init : Store Unit)) (o := ()) rfl hbuild
  exact ⟨_, _, hrun, by simp [Store.died], _, List.mem_cons_self, rfl⟩

/-- A mutex in the memory 7, with a chain. -/
def chainedMutex (chain : List Mutex.Setter) : ChainBuild :=
  .mutex (fun _ => 0) "mtx" none (.memory (some 7)) chain

/-- `SetSharedMemDestroy` after `SetSharedMem`: the destructor destroys the mutex. -/
theorem chain_decides_destroy :
    ∃ trs s tr, Run StoreStep (Store.init : Store Unit) trs s ∧ s.slot () = .gone ∧ tr ∈ trs ∧
      ChainDecides (chainedMutex [.setRecursive, .setSharedMem, .setSharedMemDestroy]) () tr trs := by
  have hbuild : (chainedMutex [.setRecursive, .setSharedMem, .setSharedMemDestroy]).construction.run
      Ledger.empty = .ok _ _ := rfl
  obtain ⟨trs, s, hrun, hgone, tr, htr, hact⟩ := run_chained_life hbuild
  have hlast : DestroyNotRevoked [.sharedMem, .sharedMemDestroy] := by
    intro hlast
    cases hlast
  exact ⟨trs, s, tr, hrun, hgone, htr, (chain_decides_iff hrun hgone htr hact).mpr hlast⟩

/-- `SetSharedMem` after `SetSharedMemDestroy`: the destructor destroys the mutex all the same. -/
theorem shared_mem_still_destroyed :
    ∃ trs s tr, Run StoreStep (Store.init : Store Unit) trs s ∧ s.slot () = .gone ∧ tr ∈ trs ∧
      tr.act = .construct () (chainedMutex [.setSharedMemDestroy, .setSharedMem]).construction ∧
      (dtorCallsOf () trs).count (.objectDestroy (.caller 7)) = 1 ∧
      ¬ ChainDecides (chainedMutex [.setSharedMemDestroy, .setSharedMem]) () tr trs := by
  have hbuild : (chainedMutex [.setSharedMemDestroy, .setSharedMem]).construction.run
      Ledger.empty = .ok _ _ := rfl
  obtain ⟨trs, s, hrun, hgone, tr, htr, hact⟩ := run_chained_life hbuild
  obtain ⟨h, hok, hcalls⟩ := dtorCalls_of_run hrun hgone htr hact
  have hcount := (ChainBuild.run_ok hok).2
  rw [← hcalls] at hcount
  refine ⟨trs, s, tr, hrun, hgone, htr, hact, hcount, fun hdecides => ?_⟩
  exact absurd (hcount.symm.trans hdecides.destroyed) (by decide)

end AxzlCore

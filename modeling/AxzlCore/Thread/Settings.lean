import AxzlCore.Storage.Transaction
import AxzlCore.Thread.Object
import Mathlib.Data.Finset.Basic
import Mathlib.Data.Finset.Dedup

/-!
# From a chain of setters to a thread

A caller writes `Config { inherit }.SetScheduler(..).SetDetached(..)` and passes the result to the constructor
of `Thread`.  The constructor allocates the context, fills an attribute object block by block, each block with
its own checks, and creates the thread.

* `Setter`, `Config.ofChain` — the chain; `ofChain_eq_lastSet` — each field has the value of the last setter
  that writes it.
* `build` — the constructor on the storage ledger; `build_eq` — what it builds is what `construct` does.
* `thread_of_chain` — for every chain: the construction succeeds exactly if the calls it makes succeed and the
  last values set are in range, and then the thread has those values and else those of its base; when it
  fails, nothing is left.
-/

set_option autoImplicit false

namespace AxzlCore

open Errno

namespace Thread

/-! ## Chains of setters -/

/-- The setters of `Thread::Config`. -/
inductive Setter
  | setScheduler (params : SchedulerParams)
  | setDetached (detached : Bool)
  | setStackSize (size : Nat)
  | setAffinity (cores : CpuSet)
  | setAffinityOf (cores : List Nat)

namespace Setter

/-- The call of the setter. -/
def apply (cfg : Config) : Setter → Config
  | .setScheduler params => cfg.setScheduler params
  | .setDetached detached => cfg.setDetached detached
  | .setStackSize size => cfg.setStackSize size
  | .setAffinity cores => cfg.setAffinity cores
  | .setAffinityOf cores => cfg.setAffinityOf cores

def sched? : Setter → Option SchedulerParams
  | .setScheduler params => some params
  | _ => none

def detached? : Setter → Option Bool
  | .setDetached detached => some detached
  | _ => none

def stackSize? : Setter → Option Nat
  | .setStackSize size => some size
  | _ => none

/-- Of a list of cores, those that fit a `cpu_set_t`. -/
def cores? : Setter → Option CpuSet
  | .setAffinity cores => some cores
  | .setAffinityOf cores => some (cores.toFinset.filter (· < CPU_SETSIZE))
  | _ => none

end Setter

/-- `Config { inherit }` followed by a chain of setters. -/
def Config.ofChain (inherit : Bool) (chain : List Setter) : Config :=
  chain.foldl Setter.apply { mInherit := inherit }

/-- The value a chain gives to what `writes` writes: that of the last setter that does. -/
def lastOf {α : Type} (writes : Setter → Option α) (chain : List Setter) : Option α :=
  (chain.filterMap writes).getLast?

/-- A field that each setter either writes or leaves has the value written last. -/
theorem field_foldl {α : Type} (field : Config → Option α) (writes : Setter → Option α)
    (happly : ∀ cfg setter, field (Setter.apply cfg setter) = (writes setter).or (field cfg))
    (chain : List Setter) (cfg : Config) :
    field (chain.foldl Setter.apply cfg) = (lastOf writes chain).or (field cfg) := by
  unfold lastOf
  induction chain generalizing cfg with
  | nil => rfl
  | cons setter chain ih =>
      rw [List.foldl_cons, ih, happly]
      cases hwrites : writes setter with
      | none => rw [List.filterMap_cons_none hwrites, Option.none_or]
      | some value =>
          rw [List.filterMap_cons_some hwrites, List.getLast?_cons, Option.some_or]
          cases (chain.filterMap writes).getLast? with
          | none => rfl
          | some last => rfl

/-- A field that no setter writes keeps its value. -/
theorem unwritten_foldl {α : Type} (field : Config → α)
    (happly : ∀ cfg setter, field (Setter.apply cfg setter) = field cfg) (chain : List Setter)
    (cfg : Config) : field (chain.foldl Setter.apply cfg) = field cfg := by
  induction chain generalizing cfg with
  | nil => rfl
  | cons setter chain ih => rw [List.foldl_cons, ih, happly]

/-- The loop of `SetAffinity` over a list of cores. -/
theorem foldl_cpuSet (cores : List Nat) (cset : CpuSet) :
    cores.foldl (fun cset c => cpuSet c cset) cset = cset ∪ cores.toFinset.filter (· < CPU_SETSIZE) := by
  induction cores generalizing cset with
  | nil => simp
  | cons c cores ih =>
      rw [List.foldl_cons, ih, List.toFinset_cons, Finset.filter_insert, cpuSet]
      split
      · ext core
        simp only [Finset.mem_union, Finset.mem_insert]
        tauto
      · rfl

/-- The configuration a chain asks for: of each setting the last, and no guard size. -/
def lastSet (inherit : Bool) (chain : List Setter) : Config where
  mInherit := inherit
  mSched := lastOf Setter.sched? chain
  mDetach := lastOf Setter.detached? chain
  mStackSize := lastOf Setter.stackSize? chain
  mCpuCores := lastOf Setter.cores? chain

/-- **What a chain configures.** -/
theorem ofChain_eq_lastSet (inherit : Bool) (chain : List Setter) :
    Config.ofChain inherit chain = lastSet inherit chain := by
  have hinherit : (Config.ofChain inherit chain).mInherit = inherit :=
    unwritten_foldl Config.mInherit (fun cfg setter => by cases setter <;> rfl) chain _
  have hguard : (Config.ofChain inherit chain).mGuardSize = none :=
    unwritten_foldl Config.mGuardSize (fun cfg setter => by cases setter <;> rfl) chain _
  have hsched : (Config.ofChain inherit chain).mSched = (lastOf Setter.sched? chain).or none :=
    field_foldl Config.mSched Setter.sched? (fun cfg setter => by cases setter <;> rfl) chain _
  have hdetach : (Config.ofChain inherit chain).mDetach = (lastOf Setter.detached? chain).or none :=
    field_foldl Config.mDetach Setter.detached? (fun cfg setter => by cases setter <;> rfl) chain _
  have hstack : (Config.ofChain inherit chain).mStackSize = (lastOf Setter.stackSize? chain).or none :=
    field_foldl Config.mStackSize Setter.stackSize? (fun cfg setter => by cases setter <;> rfl) chain _
  have hcores : (Config.ofChain inherit chain).mCpuCores = (lastOf Setter.cores? chain).or none := by
    refine field_foldl Config.mCpuCores Setter.cores? (fun cfg setter => ?_) chain _
    cases setter with
    | setAffinityOf cores => simp [Setter.apply, Config.setAffinityOf, Setter.cores?, foldl_cpuSet]
    | setScheduler | setDetached | setStackSize | setAffinity => rfl
  simp only [Option.or_none] at hsched hdetach hstack hcores
  unfold lastSet
  rw [← hsched, ← hdetach, ← hstack, ← hcores, ← hguard]
  calc Config.ofChain inherit chain
      = { Config.ofChain inherit chain with mInherit := (Config.ofChain inherit chain).mInherit } := rfl
    _ = { Config.ofChain inherit chain with mInherit := inherit } := by rw [hinherit]

/-! ## Outcomes -/

/-- The code ends with `a` when `ok` holds, and else throws. -/
def Decides {α : Type} (ok : Prop) (x : Except SystemError α) (a : α) : Prop :=
  (ok ∧ x = .ok a) ∨ (¬ ok ∧ ∃ e, e.IsThrown ∧ x = .error e)

namespace Decides

variable {α β : Type} {ok ok' : Prop} {x : Except SystemError α} {a : α}

theorem of_ok (a : α) : Decides True (.ok a) a := .inl ⟨trivial, rfl⟩

theorem congr {b : α} (hiff : ok ↔ ok') (hvalue : a = b) (h : Decides ok x a) : Decides ok' x b := by
  rwa [← propext hiff, ← hvalue]

/-- One part after another. -/
theorem bind {f : α → Except SystemError β} {b : β} (h : Decides ok x a) (hnext : Decides ok' (f a) b) :
    Decides (ok ∧ ok') (x >>= f) b := by
  rcases h with ⟨hok, rfl⟩ | ⟨hnot, e, hthrown, rfl⟩
  · rcases hnext with ⟨hok', hf⟩ | ⟨hnot, e, hthrown, hf⟩
    · exact .inl ⟨⟨hok, hok'⟩, hf⟩
    · exact .inr ⟨fun hall => hnot hall.2, e, hthrown, hf⟩
  · exact .inr ⟨fun hall => hnot hall.1, e, hthrown, rfl⟩

theorem throwOn (rc : Rc) (name loc what : String) : Decides (rc = 0) (Thread.throwOn rc name loc what) () := by
  unfold Thread.throwOn
  by_cases hrc : rc = 0
  · exact .inl ⟨hrc, if_neg (not_not.mpr hrc)⟩
  · exact .inr ⟨hrc, _, isThrown_of_ne hrc name loc what, if_pos hrc⟩

/-- A test in front. -/
theorem throwOn_then {rc : Rc} {name loc what : String} {f : Unit → Except SystemError β} {b : β}
    (hnext : Decides ok' (f ()) b) : Decides (rc = 0 ∧ ok') (Thread.throwOn rc name loc what >>= f) b :=
  (throwOn rc name loc what).bind hnext

end Decides

/-! ## The attribute object -/

/-- The priority or nice value is one the constructor accepts. -/
def PrioInRange (sched : SchedulerParams) : Prop :=
  if sched.isRt then rtPrioMin ≤ sched.prio ∧ sched.prio ≤ rtPrioMax
  else LINUX_MIN_NICE ≤ sched.prio ∧ sched.prio ≤ LINUX_MAX_NICE

/-- The OS calls that a construction with `cfg` makes for its attributes succeed, and what `cfg` sets is in
range. -/
structure Accepted (os : AttrResults) (cfg : Config) : Prop where
  attrInit : os .attrInit = 0
  base : os (if cfg.mInherit then .getattr else .getattrDefault) = 0
  sched : ∀ sched, cfg.mSched = some sched → PrioInRange sched ∧ os .setinheritsched = 0 ∧
    os .setschedpolicy = 0 ∧ (sched.isRt = true → os .setschedparam = 0)
  detach : cfg.mDetach ≠ none → os .setdetachstate = 0
  stackSize : ∀ size, cfg.mStackSize = some size → os.PTHREAD_STACK_MIN ≤ size ∧ os .setstacksize = 0
  guardSize : cfg.mGuardSize ≠ none → os .setguardsize = 0
  affinity : cfg.mCpuCores ≠ none → os .setaffinity = 0

/-- The scheduling fields that `mSched` asks for: a nice value leaves the priority of the base. -/
def schedAttr (mSched : Option SchedulerParams) (base : PthreadAttr) : PthreadAttr :=
  mSched.elim base fun sched =>
    { base with
      inheritSched := false
      policy := sched.policy
      priority := if sched.isRt then sched.prio else base.priority }

/-- The attributes that `cfg` asks for: what it sets, and else what the base has. -/
def wantedAttr (cfg : Config) (base : PthreadAttr) : PthreadAttr :=
  { schedAttr cfg.mSched base with
    detached := cfg.mDetach.getD base.detached
    stackSize := (cfg.mStackSize.map Nat.toPNat').getD base.stackSize
    guardSize := cfg.mGuardSize.getD base.guardSize
    affinity := cfg.mCpuCores.or base.affinity }

section Blocks

variable {os : AttrResults} {name : String}

theorem baseAttr_decides (self dflt : PthreadAttr) (mInherit : Bool) :
    Decides (os (if mInherit then .getattr else .getattrDefault) = 0) (baseAttr os name self dflt mInherit)
      (if mInherit then self else dflt) := by
  cases mInherit with
  | true => exact .congr (and_iff_left trivial) rfl (.throwOn_then (.of_ok self))
  | false => exact .congr (and_iff_left trivial) rfl (.throwOn_then (.of_ok dflt))

theorem checkSched_decides (sched : SchedulerParams) :
    Decides (PrioInRange sched) (checkSched name sched) () := by
  have hthrown : ∀ what, ∃ e : SystemError, e.IsThrown ∧
      (Except.error (throwSystemError name "Attributes" EINVAL what) : Except SystemError Unit) = .error e :=
    fun what => ⟨_, isThrown_of_ne (by decide) name "Attributes" what, rfl⟩
  unfold checkSched PrioInRange
  split
  · split
    · next hout => exact .inr ⟨by omega, hthrown _⟩
    · next hin => exact .inl ⟨by omega, rfl⟩
  · split
    · next hout => exact .inr ⟨by omega, hthrown _⟩
    · next hin => exact .inl ⟨by omega, rfl⟩

theorem applySched_decides (mSched : Option SchedulerParams) (attr : PthreadAttr) :
    Decides (∀ sched, mSched = some sched → PrioInRange sched ∧ os .setinheritsched = 0 ∧
        os .setschedpolicy = 0 ∧ (sched.isRt = true → os .setschedparam = 0))
      (applySched os name mSched attr) (schedAttr mSched attr) := by
  cases mSched with
  | none => exact .congr (by simp) rfl (.of_ok attr)
  | some sched =>
      simp only [Option.some.injEq, forall_eq']
      refine .bind (checkSched_decides sched) (.throwOn_then (.throwOn_then ?_))
      by_cases hrt : sched.isRt = true
      · simp only [hrt, if_true]
        exact .congr (by simp) (by simp [schedAttr, hrt]) (.throwOn_then (.of_ok _))
      · simp only [hrt]
        exact .congr (by simp) (by simp [schedAttr, hrt]) (.of_ok _)

theorem applyOption_decides {α : Type} {rc : Rc} {what : String} (set : α → PthreadAttr → PthreadAttr)
    (field : Option α) (attr : PthreadAttr) :
    Decides (field ≠ none → rc = 0) (applyOption rc name what set field attr)
      (field.elim attr fun value => set value attr) := by
  cases field with
  | none => exact .congr (by simp) rfl (.of_ok attr)
  | some value => exact .congr (by simp) rfl (.throwOn_then (.of_ok (set value attr)))

theorem applyStackSize_decides (mStackSize : Option Nat) (attr : PthreadAttr) :
    Decides (∀ size, mStackSize = some size → os.PTHREAD_STACK_MIN ≤ size ∧ os .setstacksize = 0)
      (applyStackSize os name mStackSize attr)
      { attr with stackSize := (mStackSize.map Nat.toPNat').getD attr.stackSize } := by
  cases mStackSize with
  | none => exact .congr (by simp) rfl (.of_ok attr)
  | some size =>
      simp only [Option.some.injEq, forall_eq']
      unfold applyStackSize
      by_cases hmin : size < os.PTHREAD_STACK_MIN
      · simp only [hmin, dite_true]
        exact .inr ⟨fun h => Nat.not_le_of_lt hmin h.1, _,
          isThrown_of_ne (by decide) name "Attributes" "mStackSize", rfl⟩
      · simp only [hmin, dite_false]
        have hpos : 0 < size := Nat.lt_of_lt_of_le os.PTHREAD_STACK_MIN.pos (Nat.le_of_not_lt hmin)
        have hsize : size.toPNat' = ⟨size, hpos⟩ := PNat.eq (by simp [hpos])
        exact .congr (by simp [Nat.le_of_not_lt hmin]) (by rw [Option.map_some, hsize]; rfl) (.throwOn_then (.of_ok _))

end Blocks

/-- **The attribute object.**  The blocks succeed together exactly if each is accepted. -/
theorem attributes_decides (os : AttrResults) (name : String) (self dflt : PthreadAttr) (cfg : Config) :
    Decides (Accepted os cfg) (attributes os name self dflt cfg)
      (wantedAttr cfg (if cfg.mInherit then self else dflt)) := by
  unfold attributes
  refine .congr ?_ ?_ (.throwOn_then (.bind (baseAttr_decides self dflt cfg.mInherit)
    (.bind (applySched_decides cfg.mSched _) (.bind (applyOption_decides _ cfg.mDetach _)
      (.bind (applyStackSize_decides cfg.mStackSize _) (.bind (applyOption_decides _ cfg.mGuardSize _)
        (applyOption_decides _ cfg.mCpuCores _)))))))
  · constructor
    · rintro ⟨hinit, hbase, hsched, hdetach, hstack, hguard, haffinity⟩
      exact ⟨hinit, hbase, hsched, hdetach, hstack, hguard, haffinity⟩
    · intro h
      exact ⟨h.attrInit, h.base, h.sched, h.detach, h.stackSize, h.guardSize, h.affinity⟩
  · -- each block writes its own field, if it is set
    unfold wantedAttr
    cases cfg.mSched <;> cases cfg.mDetach <;> cases cfg.mStackSize <;> cases cfg.mGuardSize <;>
      cases cfg.mCpuCores <;> rfl

/-- The object a successful construction leaves. -/
def constructed (name : String) (log : LogPtr) (cfg : Config) (tid : Tid) : Thread :=
  ⟨nameOrDefault name, orDefaultLog log, !(cfg.mDetach.isSome && cfg.mDetach.getD false), tid, cfg.mSched⟩

theorem construct_decides (os : AttrResults) (rcCreate : Rc) (name : String) (log : LogPtr) (cfg : Config)
    (self dflt : PthreadAttr) (tid : Tid) :
    Decides (Accepted os cfg ∧ rcCreate = 0) (construct os rcCreate name log cfg self dflt tid)
      (constructed name log cfg tid, wantedAttr cfg (if cfg.mInherit then self else dflt)) := by
  unfold construct
  refine .congr (and_congr_right_iff.mpr fun _ => and_iff_left trivial) rfl
    (.bind (attributes_decides os _ self dflt cfg) (.throwOn_then (.of_ok _)))

/-! ## On the storage ledger -/

/-- A block in a `unique_ptr`: freed if `body` throws, released if it does not. -/
def withUniquePtr {α : Type} (body : Build α) : Build α := fun l =>
  match body l.new with
  | .ok a l₁ => .ok a l₁
  | .error e l₁ => .error e (l₁.delete (.heap l.next))

/-- The blocks of `Thread::Attributes` after the attribute object was initialised. -/
def fill (os : AttrResults) (name : String) (self dflt : PthreadAttr) (cfg : Config) :
    Except SystemError PthreadAttr := do
  let attr ← baseAttr os name self dflt cfg.mInherit
  let attr ← applySched os name cfg.mSched attr
  let attr ← applyDetach os name cfg.mDetach attr
  let attr ← applyStackSize os name cfg.mStackSize attr
  let attr ← applyGuardSize os name cfg.mGuardSize attr
  applyAffinity os name cfg.mCpuCores attr

/-- Code that does not touch the ledger. -/
def ofExcept {α : Type} : Except SystemError α → Build α
  | .ok a => pure a
  | .error e => throw e

/-- The constructor: the context is in a `unique_ptr` until the thread is created, and the attribute object is
destroyed at the end. -/
def build (os : AttrResults) (rcCreate : Rc) (name : String) (log : LogPtr) (cfg : Config)
    (self dflt : PthreadAttr) (tid : Tid) : Build (Thread × PthreadAttr) :=
  let mName := nameOrDefault name
  withUniquePtr do
    withScopedPosixAttr (os .attrInit) mName "pthread_attr_init failure" do
      let attr ← ofExcept (fill os mName self dflt cfg)
      check rcCreate mName "Thread" "pthread_create"
      return (constructed name log cfg tid, attr)

/-- How code ends that either keeps a block or frees it. -/
def settle {α : Type} (x : Except SystemError α) (kept freed : Ledger) : EStateM.Result SystemError Ledger α :=
  match x with
  | .ok a => .ok a kept
  | .error e => .error e freed

/-- The code ends as `y` does and leaves the ledger as it was. -/
def Neutral {α : Type} (x : Build α) (y : Except SystemError α) : Prop := ∀ l, x l = settle y l l

section Neutral

variable {α β : Type}

theorem neutral_ofExcept (y : Except SystemError α) : Neutral (ofExcept y) y := by
  intro l
  cases y <;> rfl

theorem neutral_check (rc : Rc) (name loc what : String) :
    Neutral (check rc name loc what) (throwOn rc name loc what) := by
  intro l
  unfold check throwOn
  split
  · rfl
  · rfl

theorem Neutral.bind {x : Build α} {y : Except SystemError α} {f : α → Build β}
    {g : α → Except SystemError β} (hx : Neutral x y) (hf : ∀ a, Neutral (f a) (g a)) :
    Neutral (x >>= f) (y >>= g) := by
  intro l
  have hbind : (x >>= f) l = EStateM.bind x f l := rfl
  unfold EStateM.bind at hbind
  rw [hx l] at hbind
  cases y with
  | ok a => exact hbind.trans (hf a l)
  | error e => exact hbind

/-- The attribute object is destroyed in any case. -/
theorem Neutral.in_scope {rc : Rc} {name what : String} {x : Build α} {y : Except SystemError α}
    (hx : Neutral x y) :
    Neutral (withScopedPosixAttr rc name what x)
      (throwOn rc name "ScopedPosixAttr" what >>= fun _ => y) := by
  refine (neutral_check rc name "ScopedPosixAttr" what).bind fun _ l => ?_
  rw [modify_bind]
  unfold withCleanup
  rw [hx l.attrInit]
  cases y <;> rfl

/-- A block in a `unique_ptr` around such code. -/
theorem Neutral.withUniquePtr {x : Build α} {y : Except SystemError α} (hx : Neutral x y) (l : Ledger) :
    withUniquePtr x l = settle y l.new (l.new.delete (.heap l.next)) := by
  unfold Thread.withUniquePtr
  rw [hx l.new]
  cases y <;> rfl

end Neutral

/-- **The constructor on the ledger**: what `construct` returns, and a block if it succeeds. -/
theorem build_eq (os : AttrResults) (rcCreate : Rc) (name : String) (log : LogPtr) (cfg : Config)
    (self dflt : PthreadAttr) (tid : Tid) (l : Ledger) :
    build os rcCreate name log cfg self dflt tid l =
      settle (construct os rcCreate name log cfg self dflt tid) l.new (l.new.delete (.heap l.next)) := by
  have hbody := ((neutral_ofExcept (fill os (nameOrDefault name) self dflt cfg)).bind fun attr =>
    (neutral_check rcCreate (nameOrDefault name) "Thread" "pthread_create").bind fun _ =>
      neutral_ofExcept (.ok (constructed name log cfg tid, attr)))
  have hsame : construct os rcCreate name log cfg self dflt tid =
      (throwOn (os .attrInit) (nameOrDefault name) "ScopedPosixAttr" "pthread_attr_init failure" >>= fun _ =>
        fill os (nameOrDefault name) self dflt cfg >>= fun attr =>
          throwOn rcCreate (nameOrDefault name) "Thread" "pthread_create" >>= fun _ =>
            .ok (constructed name log cfg tid, attr)) := by
    show ((throwOn (os .attrInit) (nameOrDefault name) "ScopedPosixAttr" "pthread_attr_init failure" >>=
      fun _ => fill os (nameOrDefault name) self dflt cfg) >>= fun attr =>
        throwOn rcCreate (nameOrDefault name) "Thread" "pthread_create" >>= fun _ =>
          .ok (constructed name log cfg tid, attr)) = _
    cases throwOn (os .attrInit) (nameOrDefault name) "ScopedPosixAttr" "pthread_attr_init failure" <;> rfl
  rw [hsame]
  exact hbody.in_scope.withUniquePtr l

/-- **From a chain of setters to a thread.**  For every chain in any order, every outcome of the OS calls,
every creator and every defaults: if the calls that are made succeed and the last values set are in range,
then the thread gets these values, and those of its base where nothing was set, and the only thing the
constructor adds is the block of the context, which is the new thread's.  Otherwise it throws, and the block
and the attribute object are gone. -/
theorem thread_of_chain (os : AttrResults) (rcCreate : Rc) (name : String) (log : LogPtr) (inherit : Bool)
    (chain : List Setter) (self dflt : PthreadAttr) (tid : Tid) (l : Ledger) :
    ((Accepted os (lastSet inherit chain) ∧ rcCreate = 0) ∧
        build os rcCreate name log (Config.ofChain inherit chain) self dflt tid l =
          .ok (constructed name log (lastSet inherit chain) tid,
            wantedAttr (lastSet inherit chain) (if inherit then self else dflt)) l.new) ∨
      (¬ (Accepted os (lastSet inherit chain) ∧ rcCreate = 0) ∧
        ∃ e, e.IsThrown ∧ build os rcCreate name log (Config.ofChain inherit chain) self dflt tid l =
          .error e { l with next := l.next + 1, deleted := .heap l.next :: l.deleted }) := by
  have hfreed : l.new.delete (.heap l.next) =
      { l with next := l.next + 1, deleted := .heap l.next :: l.deleted } := by
    simp [Ledger.new, Ledger.delete]
  rw [ofChain_eq_lastSet, build_eq, hfreed]
  rcases construct_decides os rcCreate name log (lastSet inherit chain) self dflt tid with
    ⟨hok, hconstruct⟩ | ⟨hnot, e, hthrown, hconstruct⟩
  · rw [hconstruct]
    exact .inl ⟨hok, rfl⟩
  · rw [hconstruct]
    exact .inr ⟨hnot, e, hthrown, rfl⟩

end Thread

end AxzlCore

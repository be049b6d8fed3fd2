import AxzlCore.Error.SystemError
import AxzlCore.Thread.Config
import Mathlib.Data.PNat.Basic

/-!
# The attribute object of a new thread

`Thread::Attributes` fills a `pthread_attr_t` from the calling thread or from the process defaults, and then
overrides it field by field with what the configuration sets.  Whatever is not overridden survives from
the base, the stack address included: no setter used here clears it.

* `Region` — a stack, as the addresses below its top.
* `attributes` — the constructor of `Thread::Attributes`; `attributes_ok` — what survives of the base in a
  successful construction.
-/

set_option autoImplicit false

namespace AxzlCore

open Errno

/-- A stack region: `size` addresses below `top`. -/
structure Region where
  top : ℕ+
  size : ℕ+
  deriving DecidableEq

namespace Region

/-- The addresses of the region. -/
def Contains (r : Region) (a : Nat) : Prop := a < r.top ∧ (r.top : Nat) ≤ a + r.size

/-- Two regions have no address in common. -/
def Disjoint (r r' : Region) : Prop := ∀ a, ¬ (r.Contains a ∧ r'.Contains a)

theorem Disjoint.symm {r r' : Region} (h : r.Disjoint r') : r'.Disjoint r :=
  fun a ha => h a ⟨ha.2, ha.1⟩

/-- Two stacks with the same top overlap, whatever their sizes. -/
theorem not_disjoint_of_top {r r' : Region} (htop : r.top = r'.top) : ¬ r.Disjoint r' := by
  intro hdis
  have hpos : 0 < (r.top : Nat) := r.top.pos
  have hsize : 0 < (r.size : Nat) := r.size.pos
  have hsize' : 0 < (r'.size : Nat) := r'.size.pos
  refine hdis ((r.top : Nat) - 1) ⟨⟨?_, ?_⟩, ⟨?_, ?_⟩⟩
  · omega
  · omega
  · rw [← htop]
    omega
  · rw [← htop]
    omega

end Region

/-- `pthread_attr_t`. -/
structure PthreadAttr where
  detached : Bool
  stackTop : Option ℕ+
  stackSize : ℕ+
  guardSize : Nat
  affinity : Option CpuSet
  inheritSched : Bool
  policy : Policy
  priority : Int

namespace Thread

/-- The OS calls made to fill the attribute object in. -/
inductive AttrCall
  | attrInit
  | getattr
  | getattrDefault
  | setinheritsched
  | setschedpolicy
  | setschedparam
  | setdetachstate
  | setstacksize
  | setguardsize
  | setaffinity
  deriving DecidableEq, Repr

/-- What the OS answers: the code of each of those calls, and the least size of a stack, a constant of the
library or an answer of `sysconf`. -/
structure AttrResults where
  rc : AttrCall → Rc
  PTHREAD_STACK_MIN : ℕ+

instance : CoeFun AttrResults fun _ => AttrCall → Rc := ⟨AttrResults.rc⟩

/-- No call fails. -/
def AttrResults.succeed : AttrResults := ⟨fun _ => 0, 16384⟩

/-- The test every OS call of the constructor is followed by. -/
def throwOn (rc : Rc) (name loc what : String) : Except SystemError Unit :=
  if rc ≠ 0 then .error (throwSystemError name loc rc what) else .ok ()

/-- `sched_get_priority_max(SCHED_RR)` and `sched_get_priority_min(SCHED_RR)`. -/
def rtPrioMax : Int := 99
def rtPrioMin : Int := 1

def LINUX_MIN_NICE : Int := -20
def LINUX_MAX_NICE : Int := 19

/-- The range checks on the scheduler parameters. -/
def checkSched (name : String) (sched : SchedulerParams) : Except SystemError Unit :=
  if sched.isRt then
    if sched.prio > rtPrioMax ∨ sched.prio < rtPrioMin then
      .error (throwSystemError name "Attributes" EINVAL "RT priority out of range")
    else
      .ok ()
  else
    if sched.prio < LINUX_MIN_NICE ∨ sched.prio > LINUX_MAX_NICE then
      .error (throwSystemError name "Attributes" EINVAL "Nice out of range")
    else
      .ok ()

/-- The base of the attribute object: the calling thread, or the process defaults. -/
def baseAttr (os : AttrResults) (name : String) (self dflt : PthreadAttr) (mInherit : Bool) :
    Except SystemError PthreadAttr :=
  if mInherit then do
    throwOn (os .getattr) name "Attributes" "pthread_getattr_np"
    -- every field is filled in, the stack address among them
    return self
  else do
    throwOn (os .getattrDefault) name "Attributes" "pthread_getattr_default_np"
    return dflt

/-- `if (cfg.mSched)`: the nice value of a thread that is not real-time is left for the thread to set. -/
def applySched (os : AttrResults) (name : String) (mSched : Option SchedulerParams)
    (attr : PthreadAttr) : Except SystemError PthreadAttr :=
  match mSched with
  | none => return attr
  | some sched => do
      checkSched name sched
      throwOn (os .setinheritsched) name "Attributes" "pthread_attr_setinheritsched"
      throwOn (os .setschedpolicy) name "Attributes" "pthread_attr_setschedpolicy"
      if sched.isRt then do
        throwOn (os .setschedparam) name "Attributes" "pthread_attr_setschedparam"
        return { attr with inheritSched := false, policy := sched.policy, priority := sched.prio }
      else
        -- the priority of the base stays in the object
        return { attr with inheritSched := false, policy := sched.policy }

/-- A field of the configuration with a setter of its own: nothing to do where it is not set. -/
def applyOption {α : Type} (rc : Rc) (name what : String) (set : α → PthreadAttr → PthreadAttr)
    (field : Option α) (attr : PthreadAttr) : Except SystemError PthreadAttr :=
  match field with
  | none => return attr
  | some value => do
      throwOn rc name "Attributes" what
      return set value attr

/-- `if (cfg.mDetach)`. -/
def applyDetach (os : AttrResults) (name : String) :
    Option Bool → PthreadAttr → Except SystemError PthreadAttr :=
  applyOption (os .setdetachstate) name "pthread_attr_setdetachstate"
    fun detach attr => { attr with detached := detach }

/-- `if (cfg.mStackSize)`. -/
def applyStackSize (os : AttrResults) (name : String) (mStackSize : Option Nat)
    (attr : PthreadAttr) : Except SystemError PthreadAttr :=
  match mStackSize with
  | none => return attr
  | some size =>
      if hmin : size < os.PTHREAD_STACK_MIN then
        .error (throwSystemError name "Attributes" ENOMEM "mStackSize")
      else do
        throwOn (os .setstacksize) name "Attributes" "pthread_attr_setstack"
        return { attr with
          stackSize := ⟨size, Nat.lt_of_lt_of_le os.PTHREAD_STACK_MIN.pos (Nat.le_of_not_lt hmin)⟩ }

/-- `if (cfg.mGuardSize)`. -/
def applyGuardSize (os : AttrResults) (name : String) :
    Option Nat → PthreadAttr → Except SystemError PthreadAttr :=
  applyOption (os .setguardsize) name "pthread_attr_setguardsize"
    fun size attr => { attr with guardSize := size }

/-- `if (cfg.mCpuCores)`. -/
def applyAffinity (os : AttrResults) (name : String) :
    Option CpuSet → PthreadAttr → Except SystemError PthreadAttr :=
  applyOption (os .setaffinity) name "pthread_attr_setaffinity_np"
    fun cores attr => { attr with affinity := some cores }

/-- `Thread::Attributes::Attributes`.  `self` is what `pthread_getattr_np` reports of the calling thread,
`dflt` what `pthread_getattr_default_np` reports. -/
def attributes (os : AttrResults) (name : String) (self dflt : PthreadAttr) (cfg : Config) :
    Except SystemError PthreadAttr := do
  throwOn (os .attrInit) name "ScopedPosixAttr" "pthread_attr_init failure"
  let attr ← baseAttr os name self dflt cfg.mInherit
  let attr ← applySched os name cfg.mSched attr
  let attr ← applyDetach os name cfg.mDetach attr
  let attr ← applyStackSize os name cfg.mStackSize attr
  let attr ← applyGuardSize os name cfg.mGuardSize attr
  applyAffinity os name cfg.mCpuCores attr

/-! ## Success -/

theorem throwOn_bind_ok {α : Type} {rc : Rc} {name loc what : String}
    {f : Unit → Except SystemError α} {a : α} :
    (throwOn rc name loc what >>= f) = .ok a ↔ rc = 0 ∧ f () = .ok a := by
  unfold throwOn
  by_cases hrc : rc = 0
  · simp [hrc, bind, Except.bind]
  · simp [hrc, bind, Except.bind]

theorem bind_ok {α β : Type} {x : Except SystemError α} {f : α → Except SystemError β} {b : β}
    (h : (x >>= f) = .ok b) : ∃ a, x = .ok a ∧ f a = .ok b := by
  cases x with
  | ok a => exact ⟨a, rfl, h⟩
  | error e => cases h

section Blocks

variable {os : AttrResults} {name : String} {attr attr' : PthreadAttr}

theorem baseAttr_ok {self dflt : PthreadAttr} {mInherit : Bool}
    (h : baseAttr os name self dflt mInherit = .ok attr) :
    attr = if mInherit then self else dflt := by
  unfold baseAttr at h
  split at h
  · next hinherit =>
      obtain ⟨-, h⟩ := throwOn_bind_ok.mp h
      cases h
      rw [if_pos hinherit]
  · next hinherit =>
      obtain ⟨-, h⟩ := throwOn_bind_ok.mp h
      cases h
      rw [if_neg hinherit]

/-- The scheduler block touches neither the detach state nor the stack. -/
theorem applySched_ok {mSched : Option SchedulerParams}
    (h : applySched os name mSched attr = .ok attr') :
    attr'.detached = attr.detached ∧ attr'.stackTop = attr.stackTop := by
  unfold applySched at h
  split at h
  · cases h
    exact ⟨rfl, rfl⟩
  · obtain ⟨u, -, h⟩ := bind_ok h
    rw [throwOn_bind_ok, throwOn_bind_ok] at h
    obtain ⟨-, -, h⟩ := h
    split at h
    · obtain ⟨-, h⟩ := throwOn_bind_ok.mp h
      cases h
      exact ⟨rfl, rfl⟩
    · cases h
      exact ⟨rfl, rfl⟩

theorem applyOption_ok {α : Type} {rc : Rc} {what : String} {set : α → PthreadAttr → PthreadAttr}
    {field : Option α} (h : applyOption rc name what set field attr = .ok attr') :
    attr' = field.elim attr fun value => set value attr := by
  unfold applyOption at h
  cases field with
  | none =>
      cases h
      rfl
  | some value =>
      obtain ⟨-, h⟩ := throwOn_bind_ok.mp h
      cases h
      rfl

/-- A stack size is set without moving the stack. -/
theorem applyStackSize_ok {mStackSize : Option Nat}
    (h : applyStackSize os name mStackSize attr = .ok attr') :
    attr'.detached = attr.detached ∧ attr'.stackTop = attr.stackTop := by
  unfold applyStackSize at h
  split at h
  · cases h
    exact ⟨rfl, rfl⟩
  · split at h
    · cases h
    · obtain ⟨-, h⟩ := throwOn_bind_ok.mp h
      cases h
      exact ⟨rfl, rfl⟩

end Blocks

/-- **What survives of the base.**  The detach state is the configured one, or that of the base; the stack
address is that of the base. -/
theorem attributes_ok {os : AttrResults} {name : String} {self dflt attr : PthreadAttr}
    {cfg : Config} (h : attributes os name self dflt cfg = .ok attr) :
    attr.detached = cfg.mDetach.getD (if cfg.mInherit then self else dflt).detached ∧
      attr.stackTop = (if cfg.mInherit then self else dflt).stackTop := by
  unfold attributes at h
  obtain ⟨-, h⟩ := throwOn_bind_ok.mp h
  -- one block of the constructor after the other, from the base to the result
  obtain ⟨base, hbase, h⟩ := bind_ok h
  obtain ⟨attr₁, hsched, h⟩ := bind_ok h
  obtain ⟨attr₂, hdetach, h⟩ := bind_ok h
  obtain ⟨attr₃, hstack, h⟩ := bind_ok h
  obtain ⟨attr₄, hguard, haffinity⟩ := bind_ok h
  obtain ⟨hd₁, hs₁⟩ := applySched_ok hsched
  obtain ⟨hd₃, hs₃⟩ := applyStackSize_ok hstack
  have hd₂ : attr₂.detached = cfg.mDetach.getD attr₁.detached ∧ attr₂.stackTop = attr₁.stackTop := by
    rw [applyOption_ok hdetach]
    cases cfg.mDetach with
    | none => exact ⟨rfl, rfl⟩
    | some detach => exact ⟨rfl, rfl⟩
  have hd₄ : attr₄.detached = attr₃.detached ∧ attr₄.stackTop = attr₃.stackTop := by
    rw [applyOption_ok hguard]
    cases cfg.mGuardSize with
    | none => exact ⟨rfl, rfl⟩
    | some size => exact ⟨rfl, rfl⟩
  have hd₅ : attr.detached = attr₄.detached ∧ attr.stackTop = attr₄.stackTop := by
    rw [applyOption_ok haffinity]
    cases cfg.mCpuCores with
    | none => exact ⟨rfl, rfl⟩
    | some cores => exact ⟨rfl, rfl⟩
  rw [← baseAttr_ok hbase]
  constructor
  · rw [hd₅.1, hd₄.1, hd₃, hd₂.1, hd₁]
  · rw [hd₅.2, hd₄.2, hs₃, hd₂.2, hs₁]

end Thread

end AxzlCore

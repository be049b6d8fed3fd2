import Mathlib.Data.Finset.Insert

/-!
# Scheduler parameters and `Thread::Config`

What a caller may ask of a new thread (`Scheduler.hpp` and the configuration class of `Thread.hpp`), with the
setters.  Fields that are not set are taken from the creating thread or from the process defaults.
-/

set_option autoImplicit false

namespace AxzlCore

/-- `SchedulerParams::Policy`. -/
inductive Policy
  | realtimeFifo
  | realtimeRoundRobin
  | realtimeDeadline
  | fair
  | idle
  | batch
  deriving DecidableEq, Repr

/-- `SchedulerParams`: the policy, and a real-time priority or a nice value. -/
structure SchedulerParams where
  policy : Policy
  prio : Int
  deriving DecidableEq, Repr

/-- `SchedulerParams::IsRt`, as a function of the policy. -/
def Policy.isRt : Policy → Bool
  | .realtimeFifo | .realtimeRoundRobin | .realtimeDeadline => true
  | _ => false

/-- `SchedulerParams::IsRt`. -/
def SchedulerParams.isRt (params : SchedulerParams) : Bool := params.policy.isRt

/-- `cpu_set_t`: the cores set in it. -/
abbrev CpuSet := Finset Nat

/-- `CPU_SETSIZE`. -/
def CPU_SETSIZE : Nat := 1024

/-- `CPU_SET`: cores beyond the set are ignored. -/
def cpuSet (c : Nat) (cset : CpuSet) : CpuSet := if c < CPU_SETSIZE then insert c cset else cset

namespace Thread

/-- `Thread::Config`. -/
structure Config where
  mInherit : Bool := true
  mSched : Option SchedulerParams := none
  mDetach : Option Bool := none
  mStackSize : Option Nat := none
  mGuardSize : Option Nat := none
  mCpuCores : Option CpuSet := none
  deriving DecidableEq

namespace Config

def setScheduler (cfg : Config) (params : SchedulerParams) : Config := { cfg with mSched := some params }

def setDetached (cfg : Config) (detached : Bool) : Config := { cfg with mDetach := some detached }

def setStackSize (cfg : Config) (size : Nat) : Config := { cfg with mStackSize := some size }

def setAffinity (cfg : Config) (cores : CpuSet) : Config := { cfg with mCpuCores := some cores }

/-- `SetAffinity` from a list of cores. -/
def setAffinityOf (cfg : Config) (cores : List Nat) : Config :=
  { cfg with mCpuCores := some (cores.foldl (fun cset c => cpuSet c cset) ∅) }

end Config

end Thread

end AxzlCore

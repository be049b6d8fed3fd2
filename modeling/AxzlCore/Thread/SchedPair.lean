import AxzlCore.Thread.World

/-!
# Policy and priority of a new thread

`Thread::Attributes` writes the policy of the attribute object whenever the configuration has scheduler
parameters, and the priority only when that policy is real-time.  What it does not write it keeps from the
base: the creating thread, or the process defaults.

* `attributes_sched` — the scheduling fields of the finished attribute object.
* `legalPair_rt_iff`, `legalPair_nice_iff` — whether the kernel accepts the two fields together, for a
  configuration with real-time parameters and for one with a nice value.
* `sched_pair_legal_iff` — the exact condition on configuration, creator and defaults.
-/

set_option autoImplicit false

namespace AxzlCore

open Errno

variable {O : Type}

/-- The kernel accepts the policy and the priority together: the priority is in the range of a real-time
policy (that of `SCHED_DEADLINE` is empty but for zero), and zero for the others. -/
def LegalPair : Policy → Int → Prop
  | .realtimeFifo, prio | .realtimeRoundRobin, prio => Thread.rtPrioMin ≤ prio ∧ prio ≤ Thread.rtPrioMax
  | .realtimeDeadline, prio | .fair, prio | .idle, prio | .batch, prio => prio = 0

instance (policy : Policy) (prio : Int) : Decidable (LegalPair policy prio) :=
  match policy with
  | .realtimeFifo | .realtimeRoundRobin => inferInstanceAs (Decidable (_ ∧ _))
  | .realtimeDeadline | .fair | .idle | .batch => inferInstanceAs (Decidable (_ = _))

/-- The scheduling fields of two attribute objects agree. -/
structure SameSched (attr attr' : PthreadAttr) : Prop where
  inheritSched : attr'.inheritSched = attr.inheritSched
  policy : attr'.policy = attr.policy
  priority : attr'.priority = attr.priority

theorem SameSched.refl (attr : PthreadAttr) : SameSched attr attr := ⟨rfl, rfl, rfl⟩

theorem SameSched.trans {attr attr' attr'' : PthreadAttr} (h : SameSched attr attr')
    (h' : SameSched attr' attr'') : SameSched attr attr'' :=
  ⟨h'.inheritSched.trans h.inheritSched, h'.policy.trans h.policy, h'.priority.trans h.priority⟩

namespace Thread

/-! ## The scheduling fields through the constructor -/

section Blocks

variable {os : AttrResults} {name : String} {attr attr' : PthreadAttr}

/-- A setter that leaves the scheduling fields alone. -/
theorem applyOption_sched {α : Type} {rc : Rc} {what : String} {set : α → PthreadAttr → PthreadAttr}
    {field : Option α} (hset : ∀ value, SameSched attr (set value attr))
    (h : applyOption rc name what set field attr = .ok attr') : SameSched attr attr' := by
  rw [applyOption_ok h]
  cases field with
  | none => exact .refl attr
  | some value => exact hset value

theorem applyStackSize_sched {mStackSize : Option Nat}
    (h : applyStackSize os name mStackSize attr = .ok attr') : SameSched attr attr' := by
  unfold applyStackSize at h
  split at h
  · cases h
    exact .refl attr
  · split at h
    · cases h
    · obtain ⟨-, h⟩ := throwOn_bind_ok.mp h
      cases h
      exact ⟨rfl, rfl, rfl⟩

/-- Parameters that pass the range checks. -/
theorem checkSched_ok {sched : SchedulerParams} (h : checkSched name sched = .ok ()) :
    if sched.isRt then rtPrioMin ≤ sched.prio ∧ sched.prio ≤ rtPrioMax
    else LINUX_MIN_NICE ≤ sched.prio ∧ sched.prio ≤ LINUX_MAX_NICE := by
  unfold checkSched at h
  split at h
  · next hrt =>
      split at h
      · cases h
      · rw [if_pos hrt]
        omega
  · next hrt =>
      split at h
      · cases h
      · rw [if_neg hrt]
        omega

/-- What the scheduler block does to the scheduling fields. -/
theorem applySched_sched {sched : SchedulerParams}
    (h : applySched os name (some sched) attr = .ok attr') :
    checkSched name sched = .ok () ∧ attr'.inheritSched = false ∧ attr'.policy = sched.policy ∧
      attr'.priority = if sched.isRt then sched.prio else attr.priority := by
  unfold applySched at h
  obtain ⟨u, hcheck, h⟩ := bind_ok h
  rw [throwOn_bind_ok, throwOn_bind_ok] at h
  obtain ⟨-, -, h⟩ := h
  split at h
  · next hrt =>
      obtain ⟨-, h⟩ := throwOn_bind_ok.mp h
      cases h
      exact ⟨hcheck, rfl, rfl, (if_pos hrt).symm⟩
  · next hrt =>
      cases h
      exact ⟨hcheck, rfl, rfl, (if_neg hrt).symm⟩

end Blocks

/-- **The scheduling fields of the finished attribute object** are those the scheduler block left. -/
theorem attributes_sched {os : AttrResults} {name : String} {self dflt attr : PthreadAttr}
    {cfg : Config} (h : attributes os name self dflt cfg = .ok attr) :
    ∃ attr₁, applySched os name cfg.mSched (if cfg.mInherit then self else dflt) = .ok attr₁ ∧
      SameSched attr₁ attr := by
  unfold attributes at h
  obtain ⟨-, h⟩ := throwOn_bind_ok.mp h
  obtain ⟨base, hbase, h⟩ := bind_ok h
  obtain ⟨attr₁, hsched, h⟩ := bind_ok h
  obtain ⟨attr₂, hdetach, h⟩ := bind_ok h
  obtain ⟨attr₃, hstack, h⟩ := bind_ok h
  obtain ⟨attr₄, hguard, haffinity⟩ := bind_ok h
  rw [baseAttr_ok hbase] at hsched
  have hdetach' : SameSched attr₁ attr₂ := applyOption_sched (fun _ => ⟨rfl, rfl, rfl⟩) hdetach
  have hguard' : SameSched attr₃ attr₄ := applyOption_sched (fun _ => ⟨rfl, rfl, rfl⟩) hguard
  have haffinity' : SameSched attr₄ attr := applyOption_sched (fun _ => ⟨rfl, rfl, rfl⟩) haffinity
  exact ⟨attr₁, hsched,
    ((hdetach'.trans (applyStackSize_sched hstack)).trans hguard').trans haffinity'⟩

end Thread

/-! ## Legal pairs -/

/-- Real-time parameters in range are legal together, but for a deadline policy. -/
theorem legalPair_rt_iff {sched : SchedulerParams} (hrt : sched.isRt = true)
    (hrange : Thread.rtPrioMin ≤ sched.prio ∧ sched.prio ≤ Thread.rtPrioMax) :
    LegalPair sched.policy sched.prio ↔ sched.policy ≠ .realtimeDeadline := by
  obtain ⟨policy, prio⟩ := sched
  cases policy with
  | realtimeFifo => exact iff_of_true hrange (by simp)
  | realtimeRoundRobin => exact iff_of_true hrange (by simp)
  | realtimeDeadline =>
      -- the range that was checked is that of `SCHED_RR`
      refine iff_of_false (fun hzero => ?_) (by simp)
      change prio = 0 at hzero
      have hmin : 1 ≤ prio := hrange.1
      omega
  | fair => cases hrt
  | idle => cases hrt
  | batch => cases hrt

/-- Under a policy that is not real-time only the priority zero is legal. -/
theorem legalPair_nice_iff {policy : Policy} (hrt : policy.isRt = false) (prio : Int) :
    LegalPair policy prio ↔ prio = 0 := by
  cases policy with
  | realtimeFifo => cases hrt
  | realtimeRoundRobin => cases hrt
  | realtimeDeadline => cases hrt
  | fair => exact Iff.rfl
  | idle => exact Iff.rfl
  | batch => exact Iff.rfl

/-- The attribute object holds a pair the kernel accepts, and without scheduler parameters the thread `th`
that `creator` creates with it has the policy and the priority of its creator. -/
structure SchedPairLegal (creator : OsThread O) (cfg : Thread.Config) (attr : PthreadAttr)
    (th : OsThread O) : Prop where
  legal : LegalPair attr.policy attr.priority
  inherited : cfg.mSched = none →
    th.tuning.policy = creator.tuning.policy ∧ th.tuning.priority = creator.tuning.priority

/-- What has to hold of a configuration, the creating thread and the process defaults.  Without scheduler
parameters: the base is the creator, or the defaults inherit, or happen to be like the creator.  With
them: the policy is not the deadline policy, and a policy that is not real-time finds a base of priority
zero. -/
def SchedSourcesAgree (creator : OsThread O) (dflt : PthreadAttr) (cfg : Thread.Config) : Prop :=
  match cfg.mSched with
  | none => cfg.mInherit = true ∨ dflt.inheritSched = true ∨
      (dflt.policy = creator.tuning.policy ∧ dflt.priority = creator.tuning.priority)
  | some sched => sched.policy ≠ .realtimeDeadline ∧ (sched.isRt = false →
      (if cfg.mInherit then creator.getattr else dflt).priority = 0)

section Exact

variable {os : Thread.AttrResults} {name : String} {creator : OsThread O} {dflt attr : PthreadAttr}
  {cfg : Thread.Config}

/-- Without scheduler parameters the pair is that of the base; the new thread has the one of its creator if
it inherits, or if the base has it. -/
theorem schedPairLegal_none_iff (hsched : cfg.mSched = none)
    (hsame : SameSched (if cfg.mInherit then creator.getattr else dflt) attr)
    (hcreator : LegalPair creator.tuning.policy creator.tuning.priority)
    (hdflt : LegalPair dflt.policy dflt.priority) (stack : Region) (birth : Birth O) :
    SchedPairLegal creator cfg attr (pthreadCreate creator attr stack birth) ↔
      SchedSourcesAgree creator dflt cfg := by
  have hlegal : LegalPair attr.policy attr.priority := by
    rw [hsame.policy, hsame.priority]
    split
    · exact hcreator
    · exact hdflt
  -- what is left is which pair the new thread gets
  have hpair : SchedPairLegal creator cfg attr (pthreadCreate creator attr stack birth) ↔
      (attr.inheritSched = true ∨
        (attr.policy = creator.tuning.policy ∧ attr.priority = creator.tuning.priority)) := by
    have hthread : SchedPairLegal creator cfg attr (pthreadCreate creator attr stack birth) ↔
        (if attr.inheritSched then creator.tuning.policy else attr.policy) = creator.tuning.policy ∧
          (if attr.inheritSched then creator.tuning.priority else attr.priority) =
            creator.tuning.priority :=
      ⟨fun h => h.inherited hsched, fun h => ⟨hlegal, fun _ => h⟩⟩
    rw [hthread]
    cases attr.inheritSched with
    | true => simp
    | false => simp
  rw [hpair, hsame.inheritSched, hsame.policy, hsame.priority]
  unfold SchedSourcesAgree
  rw [hsched]
  cases cfg.mInherit with
  | true => exact iff_of_true (.inr ⟨rfl, rfl⟩) (.inl rfl)
  | false => simp

/-- With scheduler parameters that pass the checks, the policy is theirs, and the priority theirs or that of
the base. -/
theorem schedPairLegal_some_iff {sched : SchedulerParams} (hsched : cfg.mSched = some sched)
    (hcheck : Thread.checkSched name sched = .ok ()) (hpolicy : attr.policy = sched.policy)
    (hpriority : attr.priority =
      if sched.isRt then sched.prio else (if cfg.mInherit then creator.getattr else dflt).priority)
    (th : OsThread O) :
    SchedPairLegal creator cfg attr th ↔ SchedSourcesAgree creator dflt cfg := by
  have hpair : SchedPairLegal creator cfg attr th ↔ LegalPair attr.policy attr.priority := by
    refine ⟨fun h => h.legal, fun h => ⟨h, fun hnone => ?_⟩⟩
    rw [hsched] at hnone
    cases hnone
  rw [hpair, hpolicy, hpriority]
  unfold SchedSourcesAgree
  rw [hsched]
  have hrange := Thread.checkSched_ok hcheck
  cases hrt : sched.isRt with
  | true =>
      rw [hrt, if_pos rfl] at hrange
      rw [if_pos rfl, legalPair_rt_iff hrt hrange]
      simp [hrt]
  | false =>
      have hdeadline : sched.policy ≠ .realtimeDeadline := by
        intro heq
        unfold SchedulerParams.isRt at hrt
        rw [heq] at hrt
        cases hrt
      rw [if_neg (by simp), legalPair_nice_iff hrt]
      simp [hdeadline, hrt]

/-- **Exactly when scheduler attributes are a legal pair.**  For every configuration that passes the checks of
the constructor, every creating thread and every process defaults that are legal themselves. -/
theorem sched_pair_legal_iff
    (hbuild : Thread.attributes os name creator.getattr dflt cfg = .ok attr)
    (hcreator : LegalPair creator.tuning.policy creator.tuning.priority)
    (hdflt : LegalPair dflt.policy dflt.priority) (stack : Region) (birth : Birth O) :
    SchedPairLegal creator cfg attr (pthreadCreate creator attr stack birth) ↔
      SchedSourcesAgree creator dflt cfg := by
  obtain ⟨attr₁, happly, hsame⟩ := Thread.attributes_sched hbuild
  cases hsched : cfg.mSched with
  | none =>
      rw [hsched] at happly
      cases happly
      exact schedPairLegal_none_iff hsched hsame hcreator hdflt stack birth
  | some sched =>
      rw [hsched] at happly
      obtain ⟨hcheck, -, hpolicy, hpriority⟩ := Thread.applySched_sched happly
      exact schedPairLegal_some_iff hsched hcheck (hsame.policy.trans hpolicy)
        (hsame.priority.trans hpriority) _

end Exact

/-! ## A real-time creator -/

/-- A creator under `SCHED_RR` with the priority 10. -/
def rtCreator : OsThread Unit :=
  { mainThread with tuning := ⟨∅, true, .realtimeRoundRobin, 10, 0⟩ }

/-- The attribute objects of two threads it creates: one asks for the real-time priority 20, the other for the
nice value 5 under `SCHED_OTHER`. -/
def rtFromRt : PthreadAttr :=
  { rtCreator.getattr with inheritSched := false, policy := .realtimeFifo, priority := 20 }

def niceFromRt : PthreadAttr := { rtCreator.getattr with inheritSched := false, policy := .fair }

/-- The thread that asks for a real-time priority gets a legal pair. -/
theorem sched_pair_legal_rt :
    SchedPairLegal rtCreator { mSched := some ⟨.realtimeFifo, 20⟩ } rtFromRt
      (pthreadCreate rtCreator rtFromRt ⟨2000, 100⟩ ⟨(), "worker", none, false⟩) := by
  have hbuild : Thread.attributes .succeed "worker" rtCreator.getattr plainDefaults.toPthreadAttr
      { mSched := some ⟨.realtimeFifo, 20⟩ } = .ok rtFromRt := rfl
  exact (sched_pair_legal_iff hbuild (by decide) (by decide) _ _).mpr
    ⟨by decide, fun hrt => absurd hrt (by decide)⟩

/-- The thread that is to leave the real-time class of its creator is created with `SCHED_OTHER` and the
real-time priority 10. -/
theorem nice_thread_keeps_rt_priority :
    Thread.attributes .succeed "worker" rtCreator.getattr plainDefaults.toPthreadAttr
        { mSched := some ⟨.fair, 5⟩ } = .ok niceFromRt ∧
      niceFromRt.policy = .fair ∧ niceFromRt.priority = 10 ∧
      ¬ SchedPairLegal rtCreator { mSched := some ⟨.fair, 5⟩ } niceFromRt
        (pthreadCreate rtCreator niceFromRt ⟨2000, 100⟩ ⟨(), "worker", none, false⟩) := by
  refine ⟨rfl, rfl, rfl, fun hlegal => ?_⟩
  exact absurd hlegal.legal (by decide)

end AxzlCore

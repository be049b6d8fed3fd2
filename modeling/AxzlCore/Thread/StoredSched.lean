import AxzlCore.Thread.PoolInvariant

/-!
# The scheduler parameters an object stores

`mSched` is to follow the thread: the owner of a thread holds the parameters it was constructed with, under the
priority of the last successful `UpdatePriority` on it.  Neither move operation hands `mSched` over: the move
constructor leaves it empty, move assignment leaves that of the thread the target had before.

* `SchedKept` — every owner holds the parameters of its thread.
* `schedKept_step_iff` — which steps keep it so.
* `sched_follows_thread_iff` — a run keeps it so exactly when all its steps do.
-/

set_option autoImplicit false

namespace AxzlCore

open Errno Function Runs

variable {O : Type}

/-- Every object that owns a thread holds the scheduler parameters of that thread. -/
def SchedKept (s : Pool O) : Prop :=
  ∀ o obj, s.objs o = .live obj → obj.mJoin = true → obj.mSched = s.given obj.mTid

/-- The condition on a step: a move takes a thread only where what the target is left with is what the source
had, and `UpdatePriority` changes the priority of a thread through its owner, or to the stored one. -/
def PoolAction.KeepsSched (s : Pool O) : PoolAction O → Prop
  | .world (.moveConstruct _ src) =>
      ∀ obj, s.objs src = .live obj → obj.mJoin = true → obj.mSched = none
  | .moveAssign dst src _ =>
      ∀ old obj, s.objs dst = .live old → s.objs src = .live obj → obj.mJoin = true →
        old.mSched = obj.mSched
  | .updatePriority _ o prio os =>
      ∀ obj, s.objs o = .live obj → obj.mJoin = false → ¬ os.Fails (s.threads obj.mTid) →
        ∀ o' obj', s.objs o' = .live obj' → obj'.mJoin = true → obj'.mTid = obj.mTid →
          obj'.mSched.map (SchedulerParams.withPrio prio) = obj'.mSched
  | _ => True

/-! ## Steps that leave the parameters of all threads alone -/

section Places

variable [DecidableEq O] {s s' : Pool O}

/-- One place changed: what counts is the object there. -/
theorem schedKept_update_iff {o : O} {slot : ObjSlot} (hkept : SchedKept s)
    (hobjs : s'.objs = update s.objs o slot) (hgiven : s'.given = s.given) :
    SchedKept s' ↔ ∀ obj, slot = .live obj → obj.mJoin = true → obj.mSched = s.given obj.mTid := by
  unfold SchedKept
  rw [hobjs, hgiven]
  constructor
  · intro h obj hslot howner
    exact h o obj (by rw [update_self, hslot]) howner
  · intro h o' obj' hobj' howner
    rcases live_update hobj' with hnew | hbefore
    · exact h obj' hnew howner
    · exact hkept o' obj' hbefore howner

/-- An operation that takes its thread from an object, and leaves the others alone. -/
theorem schedKept_release {o : O} {slot : ObjSlot} (hkept : SchedKept s)
    (hobjs : s'.objs = update s.objs o slot) (hgiven : s'.given = s.given)
    (hslot : slot.owned = none) : SchedKept s' := by
  refine (schedKept_update_iff hkept hobjs hgiven).mpr fun obj hlive howner => ?_
  rw [hlive] at hslot
  change (if obj.mJoin then some obj.mTid else none) = none at hslot
  rw [if_pos howner] at hslot
  cases hslot

/-- A move: what counts is the target. -/
theorem schedKept_moved_iff {dst src : O} {obj target : Thread} (hkept : SchedKept s)
    (hobjs : s'.objs = update (update s.objs src (.live obj.movedFrom)) dst (.live target))
    (hgiven : s'.given = s.given) :
    SchedKept s' ↔ (target.mJoin = true → target.mSched = s.given target.mTid) := by
  unfold SchedKept
  rw [hobjs, hgiven]
  constructor
  · intro h howner
    exact h dst target (update_self _ _ _) howner
  · intro h o' obj' hobj' howner
    rcases live_moved hobj' with htarget | hsource | hbefore
    · cases htarget
      exact h howner
    · cases hsource
      cases howner
    · exact hkept o' obj' hbefore howner

end Places

/-! ## Steps and runs -/

variable [DecidableEq O]

/-- A new thread gets its parameters together with its object. -/
theorem schedKept_construct {s s' : Pool O} {o : O} {obj : Thread} (hinv : PoolInv s) (hkept : SchedKept s)
    (hnew : s.threads obj.mTid = none) (hobjs : s'.objs = update s.objs o (.live obj))
    (hgiven : s'.given = update s.given obj.mTid obj.mSched) : SchedKept s' := by
  intro o' obj' hobj' howner
  rw [hobjs] at hobj'
  rw [hgiven]
  rcases live_update hobj' with hlive | hbefore
  · cases hlive
    rw [update_self]
  · -- the thread of another owner exists already
    have hne : obj'.mTid ≠ obj.mTid := fun heq => hinv.owner_created hbefore howner (heq ▸ hnew)
    rw [update_of_ne hne]
    exact hkept o' obj' hbefore howner

/-- A successful `UpdatePriority` through the owner of the thread changes both records alike. -/
theorem schedKept_update_owner {s s' : Pool O} {o : O} {obj : Thread} {prio : Int} (hinv : PoolInv s)
    (hkept : SchedKept s) (hobj : s.objs o = .live obj) (howner : obj.mJoin = true)
    (hobjs : s'.objs = update s.objs o (.live (obj.setSchedPrio prio)))
    (hgiven : s'.given =
      update s.given obj.mTid ((s.given obj.mTid).map (SchedulerParams.withPrio prio))) :
    SchedKept s' := by
  intro o' obj' hobj' howner'
  rw [hobjs, update_apply] at hobj'
  rw [hgiven]
  split at hobj'
  · cases hobj'
    rw [show (obj.setSchedPrio prio).mTid = obj.mTid from rfl, update_self, ← hkept o obj hobj howner]
    rfl
  · next hne =>
      have htid : obj'.mTid ≠ obj.mTid := fun heq => hne (hinv.owner_unique hobj' howner' hobj howner heq)
      rw [update_of_ne htid]
      exact hkept o' obj' hobj' howner'

/-- Through any other object it changes the record of the thread alone. -/
theorem schedKept_update_other_iff {s s' : Pool O} {o : O} {obj : Thread} {prio : Int}
    (hkept : SchedKept s) (hobj : s.objs o = .live obj) (hother : obj.mJoin = false)
    (hobjs : s'.objs = update s.objs o (.live (obj.setSchedPrio prio)))
    (hgiven : s'.given =
      update s.given obj.mTid ((s.given obj.mTid).map (SchedulerParams.withPrio prio))) :
    SchedKept s' ↔ ∀ o' obj', s.objs o' = .live obj' → obj'.mJoin = true → obj'.mTid = obj.mTid →
      obj'.mSched.map (SchedulerParams.withPrio prio) = obj'.mSched := by
  have hplace : ∀ {o' : O} {obj' : Thread}, obj'.mJoin = true →
      (s'.objs o' = .live obj' ↔ s.objs o' = .live obj') := by
    intro o' obj' howner
    rw [hobjs, update_apply]
    split
    · next heq =>
        subst heq
        rw [hobj]
        refine iff_of_false (fun h => ?_) fun h => ?_
        · cases h
          exact absurd howner (by simpa [Thread.setSchedPrio] using hother)
        · cases h
          exact absurd howner (by simp [hother])
    · exact Iff.rfl
  unfold SchedKept
  rw [hgiven]
  constructor
  · intro h o' obj' hobj' howner htid
    have hstored := h o' obj' ((hplace howner).mpr hobj') howner
    rw [htid, update_self, ← htid, ← hkept o' obj' hobj' howner] at hstored
    exact hstored.symm
  · intro h o' obj' hobj' howner
    rw [hplace howner] at hobj'
    by_cases htid : obj'.mTid = obj.mTid
    · rw [htid, update_self, ← htid, ← hkept o' obj' hobj' howner]
      exact (h o' obj' hobj' howner htid).symm
    · rw [update_of_ne htid]
      exact hkept o' obj' hobj' howner

/-- **One step** from a process where the parameters follow the threads keeps it so exactly under the
condition. -/
theorem schedKept_step_iff {s s' : Pool O} {a : PoolAction O} (hinv : PoolInv s) (hkept : SchedKept s)
    (hstep : PoolStep s a s') : SchedKept s' ↔ a.KeepsSched s := by
  cases hstep with
  | world hquiet hstep =>
      cases hstep with
      | @construct creator tid o name log cfg os rcCreate self obj attr stack hcreator hrunning hslot
          hnew hbuild hstack =>
          obtain ⟨rfl, -, -⟩ := Thread.construct_ok hbuild
          exact iff_of_true (schedKept_construct hinv hkept hnew rfl rfl) trivial
      | @moveConstruct dst src obj hdst hsrc =>
          refine Iff.trans (schedKept_moved_iff hkept rfl rfl) ?_
          constructor
          · intro h obj' hobj' howner
            rw [hsrc] at hobj'
            cases hobj'
            rw [hkept src obj hsrc howner]
            exact (h howner).symm
          · intro h howner
            exact (h obj hsrc howner).symm.trans (hkept src obj hsrc howner)
      | moveAssign hne hdst hsrc hready => exact absurd hquiet hne
      | join hobj hready | detach hobj | destroy hobj hready => exact hquiet.elim
      | moveAssignSelf | entry | retune | setDefaults => exact iff_of_true hkept trivial
  | constructThrows hcreator hrunning hslot hbuild => exact iff_of_true hkept trivial
  | @moveAssign dst src rc old obj r hne hdst hsrc hready hrun =>
      rw [assignFrom_ran] at hrun
      cases hrun
      refine Iff.trans (schedKept_moved_iff hkept rfl rfl) ?_
      constructor
      · intro h old' obj' hold' hobj' howner
        rw [hdst] at hold'
        rw [hsrc] at hobj'
        cases hold'
        cases hobj'
        rw [hkept src obj hsrc howner]
        exact h howner
      · intro h howner
        exact (h old obj hdst hsrc howner).trans (hkept src obj hsrc howner)
  | join hobj hready hrun =>
      rw [join_ran] at hrun
      cases hrun
      exact iff_of_true (schedKept_release hkept rfl rfl (owned_released _)) trivial
  | detach hobj hrun =>
      rw [detach_ran] at hrun
      split at hrun
      · cases hrun
      · cases hrun
        exact iff_of_true (schedKept_release hkept rfl rfl (owned_released _)) trivial
  | @detachThrows o rc obj e r hobj hrun =>
      rw [detach_ran] at hrun
      split at hrun
      · cases hrun
        refine iff_of_true (Iff.mpr (schedKept_update_iff hkept rfl rfl) fun obj' hlive howner => ?_) trivial
        cases hlive
        exact hkept o obj hobj howner
      · cases hrun
  | destroy hobj hready hrun =>
      exact iff_of_true (schedKept_release hkept rfl rfl owned_dead) trivial
  | @updatePriority caller o prio os self obj r hcaller hrunning hobj hrun =>
      obtain ⟨th, -, hfails, hdone⟩ := updatePriority_ok hrun
      have hset : r.obj = obj.setSchedPrio prio := hdone.obj
      rw [hset]
      cases howner : obj.mJoin with
      | true =>
          refine iff_of_true (schedKept_update_owner hinv hkept hobj howner rfl rfl) fun obj' hobj' hother => ?_
          rw [hobj] at hobj'
          cases hobj'
          rw [howner] at hother
          cases hother
      | false =>
          refine Iff.trans (schedKept_update_other_iff hkept hobj howner rfl rfl) ?_
          constructor
          · intro h obj' hobj' _ _
            rw [hobj] at hobj'
            cases hobj'
            exact h
          · intro h
            exact h obj hobj howner hfails
  | @updatePriorityThrows caller o prio os self obj e r hcaller hrunning hobj hrun =>
      obtain ⟨hfails, hrefused⟩ := updatePriority_error hrun
      have hsame : r.obj = obj := hrefused.obj
      rw [hsame]
      refine iff_of_true (Iff.mpr (schedKept_update_iff hkept rfl rfl) fun obj' hlive howner => ?_)
        fun obj' hobj' _ hok => ?_
      · cases hlive
        exact hkept o obj hobj howner
      · rw [hobj] at hobj'
        cases hobj'
        exact absurd hfails hok

/-- **Exactly when stored parameters follow the threads.**  In a run of any operations on any objects, from any
initial thread, every owner holds the parameters of its thread after every step if and only if every step
meets the condition. -/
theorem sched_follows_thread_iff {tid₀ : Tid} {initial : OsThread O} {defaults : DefaultAttr}
    {trs : List (Transition (Pool O) (PoolAction O))} {s : Pool O}
    (hrun : Run PoolStep (Pool.init tid₀ initial defaults) trs s) :
    (∀ tr ∈ trs, SchedKept tr.post) ↔ ∀ tr ∈ trs, tr.act.KeepsSched tr.pre :=
  hrun.safe_iff_guarded PoolInv (fun _ _ _ h hstep => poolInv_step h hstep)
    (fun _ _ _ hinv hkept hstep => schedKept_step_iff hinv hkept hstep) (poolInv_init _ _ _)
    (fun o obj hobj => by cases hobj)

/-- A joinable thread with the nice value 5. -/
def niceConfig : Thread.Config := { mInherit := false, mSched := some ⟨.fair, 5⟩, mDetach := some false }

/-- The attribute object it is created with. -/
def niceAttr : PthreadAttr := { plainDefaults.toPthreadAttr with inheritSched := false, policy := .fair }

/-- The object. -/
def niceThread : Thread := ⟨"worker", orDefaultLog none, true, 1, some ⟨.fair, 5⟩⟩

theorem poolStep_first_nice (o : O) {stack : Region}
    (hstack : StackChosen (World.init 0 (mainThread : OsThread O) plainDefaults) niceAttr stack) :
    PoolStep (Pool.init 0 mainThread plainDefaults) (.world (.construct 0 o "worker" none niceConfig 1))
      (Pool.firstBorn o niceConfig niceThread niceAttr stack) :=
  poolStep_first rfl hstack

/-- An owner may be asked to change the priority of its thread. -/
theorem sched_follows_thread_nice :
    ∃ trs s, Run PoolStep (Pool.init 0 (mainThread : OsThread Unit) plainDefaults) trs s ∧
      s.objs () = .live { niceThread with mSched := some ⟨.fair, 7⟩ } ∧ ∀ tr ∈ trs, SchedKept tr.post := by
  have hrun := Run.cons (poolStep_first_nice () (stackChosen_first (some false)))
    (.single (@PoolStep.updatePriority Unit _ _ 0 () 7 ⟨0, 0, .done⟩ _ _ _ rfl rfl rfl rfl))
  refine ⟨_, _, hrun, rfl, (sched_follows_thread_iff hrun).mpr ?_⟩
  intro tr htr
  simp only [List.mem_cons, List.not_mem_nil, or_false] at htr
  rcases htr with rfl | rfl
  · trivial
  · intro obj hobj hother
    cases hobj
    cases hother

/-- A move leaves the parameters of the thread behind. -/
theorem move_loses_sched :
    ∃ trs s, Run PoolStep (Pool.init 0 (mainThread : OsThread Bool) plainDefaults) trs s ∧
      s.objs false = .live { niceThread with mSched := none } ∧ s.given 1 = some ⟨.fair, 5⟩ ∧
      ¬ ∀ tr ∈ trs, SchedKept tr.post := by
  have hrun := Run.cons (poolStep_first_nice true (stackChosen_first (some false)))
    (.single (@PoolStep.world Bool _ _ (.moveConstruct false true) _ trivial (.moveConstruct rfl rfl)))
  refine ⟨_, _, hrun, rfl, rfl, fun hall => ?_⟩
  have hlast := hall _ (List.mem_cons_of_mem _ List.mem_cons_self) false
    { niceThread with mSched := none } rfl rfl
  cases hlast
end AxzlCore

import AxzlCore.Thread.World

/-!
# The joinable flag of a new thread

The constructor computes `mJoin` from the configuration alone, and `pthread_create` takes the detach state
from the attribute object, where an unset `mDetach` leaves what the base had.

* `joinFlag_construct_iff` — the two agree exactly when `mDetach` is set or the base is joinable.
* `join_flag_iff` — the exact condition on a run.
-/

set_option autoImplicit false

namespace AxzlCore

open Function Runs

variable {O : Type} [DecidableEq O]

/-- A successful construction leaves `mJoin` true exactly when the thread was created joinable. -/
def JoinFlagMatches (tr : Transition (World O) (ThreadAction O)) : Prop :=
  match tr.act with
  | .construct _ o _ _ _ tid => ∀ obj th, tr.post.objs o = .live obj →
      tr.post.threads tid = some th → (obj.mJoin = true ↔ th.detached = false)
  | _ => True

/-- The detach state is configured, or the base of the attribute object is joinable. -/
def DetachDecided (s : World O) : ThreadAction O → Prop
  | .construct creator _ _ _ cfg _ => cfg.mDetach = none →
      if cfg.mInherit then ∀ self, s.threads creator = some self → self.detached = false
      else s.defaults.detached = false
  | _ => True

/-- **Exact condition for one construction.** -/
theorem joinFlag_construct_iff {os : Thread.AttrResults} {rcCreate : Errno.Rc} {name : String}
    {log : LogPtr} {cfg : Thread.Config} {self dflt attr : PthreadAttr} {tid : Tid} {obj : Thread}
    (hbuild : Thread.construct os rcCreate name log cfg self dflt tid = .ok (obj, attr)) :
    (obj.mJoin = true ↔ attr.detached = false) ↔
      (cfg.mDetach = none → (if cfg.mInherit then self else dflt).detached = false) := by
  obtain ⟨rfl, hdetached, -⟩ := Thread.construct_ok hbuild
  rw [hdetached]
  -- a configured state is in flag and attributes alike; an unset one is in the attributes only
  cases cfg.mDetach with
  | none => simp
  | some detach => simp

/-- **Exactly when the flag matches the thread.**  Along a run, from any initial thread and with any process
defaults, every construction leaves `mJoin` true exactly when its thread was created joinable, if and only
if every construction sets `mDetach` or starts from a joinable base. -/
theorem join_flag_iff {tid₀ : Tid} {initial : OsThread O} {defaults : DefaultAttr}
    {trs : List (Transition (World O) (ThreadAction O))} {s : World O}
    (hrun : Run WorldStep (World.init tid₀ initial defaults) trs s) :
    (∀ tr ∈ trs, JoinFlagMatches tr) ↔ ∀ tr ∈ trs, DetachDecided tr.pre tr.act := by
  refine hrun.forall_iff fun tr _ hstep => ?_
  obtain ⟨pre, act, post⟩ := tr
  change WorldStep pre act post at hstep
  cases hstep with
  | moveConstruct | moveAssignSelf | moveAssign | join | detach | destroy | entry | retune
    | setDefaults => exact Iff.rfl
  | @construct creator tid o name log cfg os rcCreate self obj attr stack hcreator hrunning hslot
      hnew hbuild hstack =>
      have hone := joinFlag_construct_iff hbuild
      have hbase : (if cfg.mInherit then self.getattr else pre.defaults.toPthreadAttr).detached =
          false ↔
          if cfg.mInherit then ∀ th, pre.threads creator = some th → th.detached = false
          else pre.defaults.detached = false := by
        split
        · constructor
          · intro hself th hth
            rw [hcreator] at hth
            cases hth
            exact hself
          · intro hall
            exact hall self hcreator
        · exact Iff.rfl
      rw [hbase] at hone
      refine Iff.trans ⟨fun hflag => ?_, fun hflag => ?_⟩ hone
      · exact hflag obj _ (update_self _ _ _) (update_self _ _ _)
      · intro obj' th hobj hth
        change update pre.objs o _ o = _ at hobj
        change update pre.threads tid _ tid = _ at hth
        rw [update_self] at hobj hth
        cases hobj
        cases hth
        exact hflag

/-- A joinable construction that sets `mDetach`. -/
theorem join_flag_explicit :
    ∃ trs s, Run WorldStep (World.init 0 (mainThread : OsThread Unit) plainDefaults) trs s ∧
      (∃ obj, s.objs () = .live obj ∧ obj.mJoin = true) ∧ ∀ tr ∈ trs, JoinFlagMatches tr := by
  have hrun := Run.single (step_first_plain () "worker" none false (some false)
    (stackChosen_first (some false)))
  refine ⟨_, _, hrun, ⟨_, rfl, rfl⟩, (join_flag_iff hrun).mpr fun tr htr => ?_⟩
  rw [List.mem_singleton.mp htr]
  intro hnone
  cases hnone

/-- A detached thread constructs another one from a `Config { true }` with nothing else set: the object takes
the detached thread for joinable. -/
theorem join_flag_set_for_detached :
    ∃ trs s, Run WorldStep (World.init 0 { (mainThread : OsThread Unit) with detached := true }
        plainDefaults) trs s ∧
      (∃ obj th, s.objs () = .live obj ∧ s.threads 1 = some th ∧ obj.mJoin = true ∧
        th.detached = true) ∧
      ¬ ∀ tr ∈ trs, JoinFlagMatches tr := by
  have hstep : WorldStep (World.init 0 { (mainThread : OsThread Unit) with detached := true }
      plainDefaults) (.construct 0 () "worker" none (plainConfig true none) 1) _ :=
    step_construct_plain ⟨1000, 100⟩ rfl rfl rfl rfl rfl
  refine ⟨_, _, .single hstep, ⟨_, _, rfl, rfl, rfl, rfl⟩, fun hall => ?_⟩
  have hflag := hall _ (List.mem_singleton_self _) _ _ rfl rfl
  exact absurd (hflag.mp rfl) (by decide)

end AxzlCore

import AxzlCore.Thread.Pool

/-!
# What holds of every reachable process

Ownership of threads stays linear also where `Join` and `Detach` fail and `UpdatePriority` comes in between:
a thread has at most one owner, and none once that owner has given it up.

* `PoolInv` — the invariant; `poolInv_step`, `poolInv_of_run`.
* `ownership_step` — the refinement of the linear registry of threads that carries it.
* `worldStep_of_poolStep` — the steps that the world knows are those of the world.
-/

set_option autoImplicit false

namespace AxzlCore

open Errno Function LinearOwnership Runs

variable {O : Type}

/-! ## The invariant -/

/-- The process as a registry of threads. -/
def Pool.ownership (s : Pool O) : Registry O Tid :=
  threadRegistry s.objs {t | t ∈ s.issued} s.released

/-- What holds of every reachable process. -/
structure PoolInv (s : Pool O) : Prop where
  /-- A thread has at most one owner, and none once its owner gave it up. -/
  linear : Linear s.ownership
  /-- A thread that was given to an object exists. -/
  created : ∀ t ∈ s.issued, s.threads t ≠ none
  /-- What was joined was given up by its owner. -/
  joined : ∀ t ∈ s.joined, t ∈ s.released
  logger : LoggerKept s.toWorld

section Owners

variable {s : Pool O} {o o' : O} {obj obj' : Thread}

theorem PoolInv.owner_holds (hobj : s.objs o = .live obj) (howner : obj.mJoin = true) :
    s.ownership.holds o = some obj.mTid := by
  show (s.objs o).owned = _
  rw [hobj]
  exact if_pos howner

/-- Two owners of a thread are one. -/
theorem PoolInv.owner_unique (hinv : PoolInv s) (hobj : s.objs o = .live obj) (howner : obj.mJoin = true)
    (hobj' : s.objs o' = .live obj') (howner' : obj'.mJoin = true) (htid : obj.mTid = obj'.mTid) :
    o = o' := by
  have hholds := owner_holds hobj howner
  rw [htid] at hholds
  exact hinv.linear.unique o o' _ hholds (owner_holds hobj' howner')

/-- The thread of an owner was not joined. -/
theorem PoolInv.owner_not_joined (hinv : PoolInv s) (hobj : s.objs o = .live obj)
    (howner : obj.mJoin = true) : obj.mTid ∉ s.joined := by
  intro hjoined
  exact (hinv.linear.outstanding o _ (owner_holds hobj howner)).2 (hinv.joined _ hjoined)

/-- The thread of an owner exists. -/
theorem PoolInv.owner_created (hinv : PoolInv s) (hobj : s.objs o = .live obj)
    (howner : obj.mJoin = true) : s.threads obj.mTid ≠ none :=
  hinv.created _ (hinv.linear.outstanding o _ (owner_holds hobj howner)).1

end Owners

/-- A construction issues what the new object owns, which is the new thread or nothing. -/
theorem issues_construct {os : Thread.AttrResults} {rcCreate : Rc} {name : String} {log : LogPtr}
    {cfg : Thread.Config} {self dflt attr : PthreadAttr} {tid : Tid} {obj : Thread}
    (hbuild : Thread.construct os rcCreate name log cfg self dflt tid = .ok (obj, attr)) (creator : Tid)
    (o : O) :
    (ThreadAction.construct creator o name log cfg tid).issues = obj.ownedTids ∧
      ∀ t ∈ obj.ownedTids, t = tid := by
  obtain ⟨rfl, -, -⟩ := Thread.construct_ok hbuild
  change (if cfg.mDetach.isSome && cfg.mDetach.getD false then [] else [tid]) =
      (if !(cfg.mDetach.isSome && cfg.mDetach.getD false) then some tid else none).toList ∧
    ∀ t ∈ (if !(cfg.mDetach.isSome && cfg.mDetach.getD false) then some tid else none).toList, t = tid
  cases cfg.mDetach.isSome && cfg.mDetach.getD false with
  | true => exact ⟨rfl, by simp⟩
  | false => exact ⟨rfl, by simp⟩

variable [DecidableEq O]

/-- Every step is a path of the linear registry of threads. -/
theorem ownership_step {s s' : Pool O} {a : PoolAction O} (hcreated : ∀ t ∈ s.issued, s.threads t ≠ none)
    (hstep : PoolStep s a s') :
    Relation.ReflTransGen LinearOwnership.Step s.ownership s'.ownership := by
  cases hstep with
  | world hquiet hstep =>
      cases hstep with
      | @construct creator tid o name log cfg os rcCreate self obj attr stack hcreator hrunning hslot
          hnew hbuild hstack =>
          obtain ⟨hissues, htid⟩ := issues_construct hbuild creator o
          have hset : {t | t ∈ (ThreadAction.construct creator o name log cfg tid).issues ++ s.issued} =
              {t | (ObjSlot.live obj).owned = some t ∨ t ∈ {t | t ∈ s.issued}} := by
            ext t
            simp [hissues, Thread.ownedTids]
          have hfresh : ∀ t, (ObjSlot.live obj).owned = some t → t ∉ {t | t ∈ s.issued} := by
            intro t ht hissued
            have heq := htid t (Option.mem_toList.mpr ht)
            exact hcreated t hissued (heq ▸ hnew)
          unfold Pool.ownership
          rw [hset]
          exact threadRegistry_construct hslot hfresh
      | moveConstruct hdst hsrc => exact threadRegistry_moveConstruct hdst hsrc
      | moveAssign hne hdst hsrc hready => exact absurd hquiet hne
      | join hobj hready | detach hobj | destroy hobj hready => exact hquiet.elim
      | moveAssignSelf | entry | retune | setDefaults => exact .refl
  | constructThrows hcreator hrunning hslot hbuild => exact .refl
  | moveAssign hne hdst hsrc hready hrun =>
      rw [assignFrom_ran] at hrun
      cases hrun
      exact threadRegistry_moveAssign hne hdst hsrc
  | join hobj hready hrun =>
      rw [join_ran] at hrun
      cases hrun
      exact threadRegistry_release hobj (owned_released _)
  | detach hobj hrun =>
      rw [detach_ran] at hrun
      split at hrun
      · cases hrun
      · cases hrun
        exact threadRegistry_release hobj (owned_released _)
  | detachThrows hobj hrun =>
      rw [detach_ran] at hrun
      split at hrun
      · cases hrun
        exact threadRegistry_keep hobj rfl
      · cases hrun
  | @destroy o rc obj r hobj hready hrun => exact threadRegistry_release hobj owned_dead
  | @updatePriority caller o prio os self obj r hcaller hrunning hobj hrun =>
      obtain ⟨th, -, -, hdone⟩ := updatePriority_ok hrun
      have howned : (ObjSlot.live r.obj).owned = (ObjSlot.live obj).owned := by
        rw [hdone.obj]
        rfl
      exact threadRegistry_keep hobj howned
  | @updatePriorityThrows caller o prio os self obj e r hcaller hrunning hobj hrun =>
      have howned : (ObjSlot.live r.obj).owned = (ObjSlot.live obj).owned := by
        rw [(updatePriority_error hrun).2.obj]
        rfl
      exact threadRegistry_keep hobj howned

omit [DecidableEq O] in
theorem changed_ne_none {threads : Tid → Option (OsThread O)} {t : Tid} (h : threads t ≠ none) (tid : Tid)
    (f : OsThread O → OsThread O) : changed threads tid f t ≠ none := by
  unfold changed
  rw [update_apply]
  split
  · next heq =>
      subst heq
      simpa using h
  · exact h

omit [DecidableEq O] in
theorem detachThread_ne_none {threads : Tid → Option (OsThread O)} {t : Tid} (h : threads t ≠ none)
    (obj : Thread) : detachThread obj threads t ≠ none := by
  rcases detachThread_cases obj threads t with ⟨hnone, -⟩ | ⟨th, th', -, hth', -⟩
  · exact absurd hnone h
  · rw [hth']
    simp

/-- A thread that exists stays known to the OS. -/
theorem threads_kept {s s' : Pool O} {a : PoolAction O} (hstep : PoolStep s a s') {t : Tid}
    (h : s.threads t ≠ none) : s'.threads t ≠ none := by
  cases hstep with
  | world hquiet hstep =>
      rcases threads_step hstep t with ⟨hnone, -⟩ | ⟨th, th', -, hth', -⟩ | ⟨_, _, _, _, _, -, hnone⟩
      · exact absurd hnone h
      · show _ ≠ none
        rw [hth']
        simp
      · exact absurd hnone h
  | constructThrows hcreator hrunning hslot hbuild => exact h
  | moveAssign hne hdst hsrc hready hrun =>
      rw [assignFrom_ran] at hrun
      cases hrun
      exact h
  | join hobj hready hrun =>
      rw [join_ran] at hrun
      cases hrun
      exact h
  | detach hobj hrun =>
      rw [detach_ran] at hrun
      split at hrun
      · cases hrun
      · cases hrun
        exact detachThread_ne_none h _
  | detachThrows hobj hrun =>
      rw [detach_ran] at hrun
      split at hrun
      · cases hrun
        exact h
      · cases hrun
  | @destroy o rc obj r hobj hready hrun =>
      obtain ⟨logged, hran, -⟩ := destruct_ran rc s obj
      rw [hran] at hrun
      cases hrun
      exact h
  | @updatePriority caller o prio os self obj r hcaller hrunning hobj hrun =>
      obtain ⟨th, -, -, hdone⟩ := updatePriority_ok hrun
      show r.threads t ≠ none
      rw [hdone.threads]
      split
      · exact changed_ne_none h _ _
      · exact changed_ne_none h _ _
  | @updatePriorityThrows caller o prio os self obj e r hcaller hrunning hobj hrun =>
      show r.threads t ≠ none
      rw [(updatePriority_error hrun).2.threads]
      exact h

/-- What a step issues is a thread it creates. -/
theorem issued_step {s s' : Pool O} {a : PoolAction O} (hstep : PoolStep s a s') {t : Tid}
    (hissued : t ∈ s'.issued) : t ∈ s.issued ∨ s'.threads t ≠ none := by
  cases hstep with
  | @world a w hquiet hstep =>
      rcases List.mem_append.mp hissued with hnew | hold
      · cases hstep with
        | @construct creator tid o name log cfg os rcCreate self obj attr stack hcreator hrunning hslot
            hnone hbuild hstack =>
            obtain ⟨hissues, htid⟩ := issues_construct hbuild creator o
            have heq : t = tid := htid t (hissues ▸ hnew)
            subst heq
            exact .inr (by simp)
        | moveConstruct | moveAssignSelf | moveAssign | join | detach | destroy | entry | retune
          | setDefaults => cases hnew
      · exact .inl hold
  | constructThrows | moveAssign | join | detach | detachThrows | destroy | updatePriority
    | updatePriorityThrows => exact .inl hissued

/-- What a step joins is given up by its owner. -/
theorem joined_step {s s' : Pool O} {a : PoolAction O} (hjoined : ∀ t ∈ s.joined, t ∈ s.released)
    (hstep : PoolStep s a s') : ∀ t ∈ s'.joined, t ∈ s'.released := by
  -- after a `Join` of `obj`, whatever its code was
  have hafter : ∀ (rc : Rc) (obj : Thread), ∀ t ∈ (if rc = 0 then obj.ownedTids else []) ++ s.joined,
      t ∈ obj.ownedTids ++ s.released := by
    intro rc obj t ht
    rcases List.mem_append.mp ht with hnew | hold
    · split at hnew
      · exact List.mem_append_left _ hnew
      · cases hnew
    · exact List.mem_append_right _ (hjoined t hold)
  cases hstep with
  | world hquiet hstep => exact hjoined
  | constructThrows hcreator hrunning hslot hbuild => exact hjoined
  | moveAssign hne hdst hsrc hready hrun => exact hafter _ _
  | join hobj hready hrun => exact hafter _ _
  | detach hobj hrun => exact fun t ht => List.mem_append_right _ (hjoined t ht)
  | detachThrows hobj hrun => exact hjoined
  | destroy hobj hready hrun => exact hafter _ _
  | updatePriority hcaller hrunning hobj hrun => exact hjoined
  | updatePriorityThrows hcaller hrunning hobj hrun => exact hjoined

/-- A new object in one place keeps the loggers, if it has one where it owns a thread. -/
theorem loggerKept_update {s : Pool O} {o : O} {slot : ObjSlot} {w : World O} (hlog : LoggerKept s.toWorld)
    (hobjs : w.objs = update s.objs o slot)
    (hslot : ∀ obj, slot = .live obj → obj.mJoin = true → obj.mLog ≠ none) : LoggerKept w := by
  intro o' obj' hobj' hjoin
  rw [hobjs] at hobj'
  rcases live_update hobj' with hnew | hbefore
  · exact hslot obj' hnew hjoin
  · exact hlog o' obj' hbefore hjoin

theorem loggerKept_step {s s' : Pool O} {a : PoolAction O} (hlog : LoggerKept s.toWorld)
    (hstep : PoolStep s a s') : LoggerKept s'.toWorld := by
  -- an object that gave up its thread owns none
  have hreleased : ∀ obj obj' : Thread, ObjSlot.live obj.released = .live obj' → obj'.mJoin = true →
      obj'.mLog ≠ none := by
    intro obj obj' heq hjoin
    cases heq
    cases hjoin
  cases hstep with
  | world hquiet hstep => exact logger_step hlog hstep
  | constructThrows hcreator hrunning hslot hbuild => exact hlog
  | @moveAssign dst src rc old obj r hne hdst hsrc hready hrun =>
      rw [assignFrom_ran] at hrun
      cases hrun
      intro o' obj' hobj' hjoin
      rcases live_moved hobj' with htarget | hsource | hbefore
      · cases htarget
        exact hlog src obj hsrc hjoin
      · cases hsource
        cases hjoin
      · exact hlog o' obj' hbefore hjoin
  | join hobj hready hrun =>
      rw [join_ran] at hrun
      cases hrun
      exact loggerKept_update hlog rfl (hreleased _)
  | detach hobj hrun =>
      rw [detach_ran] at hrun
      split at hrun
      · cases hrun
      · cases hrun
        exact loggerKept_update hlog rfl (hreleased _)
  | @detachThrows o rc obj e r hobj hrun =>
      rw [detach_ran] at hrun
      split at hrun
      · cases hrun
        refine loggerKept_update hlog rfl fun obj' heq hjoin => ?_
        cases heq
        exact hlog o obj hobj hjoin
      · cases hrun
  | destroy hobj hready hrun => exact loggerKept_update hlog rfl (by simp)
  | @updatePriority caller o prio os self obj r hcaller hrunning hobj hrun =>
      obtain ⟨th, -, -, hdone⟩ := updatePriority_ok hrun
      refine loggerKept_update hlog rfl fun obj' heq hjoin => ?_
      cases heq
      rw [hdone.obj] at hjoin ⊢
      exact hlog o obj hobj hjoin
  | @updatePriorityThrows caller o prio os self obj e r hcaller hrunning hobj hrun =>
      refine loggerKept_update hlog rfl fun obj' heq hjoin => ?_
      cases heq
      rw [(updatePriority_error hrun).2.obj] at hjoin ⊢
      exact hlog o obj hobj hjoin

/-- **The invariant is kept** by every step. -/
theorem poolInv_step {s s' : Pool O} {a : PoolAction O} (hinv : PoolInv s) (hstep : PoolStep s a s') :
    PoolInv s' where
  linear := linear_of_steps hinv.linear (ownership_step hinv.created hstep)
  created t ht := by
    rcases issued_step hstep ht with hold | hnew
    · exact threads_kept hstep (hinv.created t hold)
    · exact hnew
  joined := joined_step hinv.joined hstep
  logger := loggerKept_step hinv.logger hstep

omit [DecidableEq O] in
theorem poolInv_init (tid₀ : Tid) (initial : OsThread O) (defaults : DefaultAttr) :
    PoolInv (Pool.init tid₀ initial defaults) where
  linear := by
    have hissued : {t : Tid | t ∈ ([] : List Tid)} = ∅ := by
      ext t
      simp
    show Linear (threadRegistry (fun _ => .unborn) {t | t ∈ ([] : List Tid)} [])
    rw [hissued]
    exact linear_empty
  created := by simp [Pool.init]
  joined := by simp [Pool.init]
  logger o obj hobj := by cases hobj

/-- It holds before every step of every run. -/
theorem poolInv_of_run {tid₀ : Tid} {initial : OsThread O} {defaults : DefaultAttr}
    {trs : List (Transition (Pool O) (PoolAction O))} {s : Pool O}
    (hrun : Run PoolStep (Pool.init tid₀ initial defaults) trs s) : ∀ tr ∈ trs, PoolInv tr.pre :=
  fun tr htr =>
    ((hrun.invariant (fun _ _ _ h hstep => poolInv_step h hstep) (poolInv_init _ _ _)).2 tr htr).1

/-! ## The world underneath -/

theorem osCalls_join (obj : Thread) :
    (obj.ownedTids.map PthreadCall.join).filterMap PthreadCall.osCall = obj.joinCalls := by
  cases hjoin : obj.mJoin with
  | true => rw [ownedTids_of_owner hjoin, Thread.joinCalls, if_pos hjoin]; rfl
  | false => rw [ownedTids_of_not_owner hjoin, Thread.joinCalls, if_neg (by simp [hjoin])]; rfl

theorem osCalls_detach (obj : Thread) :
    (obj.ownedTids.map PthreadCall.detach).filterMap PthreadCall.osCall = obj.detachCalls := by
  cases hjoin : obj.mJoin with
  | true => rw [ownedTids_of_owner hjoin, Thread.detachCalls, if_pos hjoin]; rfl
  | false => rw [ownedTids_of_not_owner hjoin, Thread.detachCalls, if_neg (by simp [hjoin])]; rfl

/-- **Refinement.**  A step that the world knows is one of the world, whatever `pthread_join` returns in it. -/
theorem worldStep_of_poolStep {s s' : Pool O} {a : PoolAction O} {plain : ThreadAction O}
    (hplain : a.plain = some plain) (hstep : PoolStep s a s') :
    WorldStep s.toWorld plain s'.toWorld := by
  cases hstep with
  | world hquiet hstep =>
      cases hplain
      exact hstep
  | constructThrows | updatePriority | updatePriorityThrows => cases hplain
  | @moveAssign dst src rc old obj r hne hdst hsrc hready hrun =>
      cases hplain
      rw [assignFrom_ran] at hrun
      cases hrun
      have hworld := WorldStep.moveAssign hne hdst hsrc hready
      rw [← osCalls_join] at hworld
      exact hworld
  | @join o rc obj r hobj hready hrun =>
      cases hplain
      rw [join_ran] at hrun
      cases hrun
      have hworld := WorldStep.join hobj hready
      rw [← osCalls_join] at hworld
      exact hworld
  | @detach o rc obj r hobj hrun =>
      change (if rc = 0 then some (ThreadAction.detach o) else none) = some plain at hplain
      split at hplain
      · next hrc =>
          cases hplain
          rw [detach_ran, if_neg (fun h => h.2 hrc)] at hrun
          cases hrun
          have hworld := WorldStep.detach hobj
          rw [← osCalls_detach] at hworld
          exact hworld
      · cases hplain
  | @detachThrows o rc obj e r hobj hrun =>
      change (if rc = 0 then some (ThreadAction.detach o) else none) = some plain at hplain
      split at hplain
      · next hrc =>
          rw [detach_ran, if_neg (fun h => h.2 hrc)] at hrun
          cases hrun
      · cases hplain
  | @destroy o rc obj r hobj hready hrun =>
      cases hplain
      obtain ⟨logged, hran, -⟩ := destruct_ran rc s obj
      rw [hran] at hrun
      cases hrun
      have hworld := WorldStep.destroy hobj hready
      rw [← osCalls_join] at hworld
      exact hworld

end AxzlCore

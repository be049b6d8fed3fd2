import AxzlCore.Thread.Ownership

/-!
# Threads do not outlive their objects

`Join`, also in a destructor and in an assignment over an object, waits for its thread unless `pthread_join`
fails.  With linear ownership this bounds the life of a thread by the lives of the objects that own it.

* `LetGo` — the steps in which an object gives up a thread without waiting for it.
* `done_step` — a thread that is done stays done.
* `disposed_step` — a thread is given up when it is done, or let go.
* `threads_end_with_objects` — a thread that is never let go has exactly one owner for as long as it runs, so
  it is done once no object is left.
-/

set_option autoImplicit false

namespace AxzlCore

open Errno Function LinearOwnership Runs

variable {O : Type} [DecidableEq O]

/-- The thread has returned from `ThreadEntry`. -/
def World.Done (s : World O) (t : Tid) : Prop := ∃ th, s.threads t = some th ∧ th.pc = .done

omit [DecidableEq O] in
/-- A thread that is done takes no more steps. -/
theorem entryStep_done {th : OsThread O} (hdone : th.pc = .done) (slot : ObjSlot) (rc : Rc) :
    slot.entryStep rc th = th := by
  cases slot with
  | live obj => simp [ObjSlot.entryStep, OsThread.entryStep, hdone]
  | unborn | dead => simp [ObjSlot.entryStep, OsThread.danglingStep, hdone, EntryPc.usesThis]

/-- Whatever happens, a thread that is done stays done. -/
theorem done_step {s s' : World O} {a : ThreadAction O} (hstep : WorldStep s a s') {t : Tid}
    (h : s.Done t) : s'.Done t := by
  obtain ⟨th, hth, hdone⟩ := h
  have hnew : ∀ creator o name log cfg, a ≠ .construct creator o name log cfg t := by
    rintro creator o name log cfg rfl
    cases hstep with
    | construct hcreator hrunning hslot hnew hbuild hstack =>
        rw [hth] at hnew
        cases hnew
  rcases threads_step hstep t with ⟨hnone, -⟩ | ⟨th₀, th', hth₀, hth', hsame⟩ | ⟨_, _, _, _, _, ha, -⟩
  · rw [hth] at hnone
    cases hnone
  · by_cases hentry : ∃ rc, a = .entry t rc
    · obtain ⟨rc, rfl⟩ := hentry
      cases hstep with
      | @entry _ _ th₁ birth hthread hbirth =>
          rw [hth] at hthread
          cases hthread
          refine ⟨_, update_self _ _ _, ?_⟩
          rw [entryStep_done hdone]
          exact hdone
    · -- nobody else moves the thread
      obtain ⟨th₁, hth₁, hframe⟩ :=
        entry_frame hstep hth' (fun rc ha => hentry ⟨rc, ha⟩) hnew
      rw [hth] at hth₁
      cases hth₁
      exact ⟨th', hth', hframe.pc.trans hdone⟩
  · exact absurd ha (hnew _ _ _ _ _)

/-- The step gives thread `t` up without waiting for it: by `Detach`, or by a `Join` whose `pthread_join`
fails. -/
def LetGo (t : Tid) (s : World O) : ThreadAction O → Prop
  | .moveAssign dst src rc => dst ≠ src ∧ rc ≠ 0 ∧ (s.objs dst).owned = some t
  | .join o rc | .destroy o rc => rc ≠ 0 ∧ (s.objs o).owned = some t
  | .detach o => (s.objs o).owned = some t
  | _ => False

omit [DecidableEq O] in
/-- `Join` on the owner of a thread succeeds when the thread is done, or fails. -/
theorem done_or_failed {s : World O} {o : O} {obj : Thread} {rc : Rc} (hobj : s.objs o = .live obj)
    (hready : rc = 0 → JoinReady s obj) {t : Tid} (howned : (ObjSlot.live obj).owned = some t) :
    s.Done t ∨ rc ≠ 0 ∧ (s.objs o).owned = some t := by
  obtain ⟨obj', heq, hjoin, rfl⟩ := owned_eq_some.mp howned
  cases heq
  by_cases hrc : rc = 0
  · exact .inl (hready hrc hjoin)
  · exact .inr ⟨hrc, by rw [hobj, howned]⟩

/-- **One step.**  A thread that was not given up before is given up when it is done, or is let go. -/
theorem disposed_step {s s' : World O} {a : ThreadAction O} (hstep : WorldStep s a s') {t : Tid}
    (ht : t ∈ s'.disposed) : t ∈ s.disposed ∨ s.Done t ∨ LetGo t s a := by
  -- a call about the thread an object owns
  have hcalls : ∀ {obj : Thread} {calls : List OsCall},
      calls.map OsCall.tid = (ObjSlot.live obj).owned.toList → t ∈ (calls ++ s.calls).map OsCall.tid →
      t ∈ s.disposed ∨ (ObjSlot.live obj).owned = some t := by
    intro obj calls hcalls hmem
    rw [disposed_release hcalls] at hmem
    rcases List.mem_append.mp hmem with hnow | hbefore
    · exact .inr (Option.mem_toList.mp hnow)
    · exact .inl hbefore
  cases hstep with
  | construct | moveConstruct | moveAssignSelf | entry | retune | setDefaults => exact .inl ht
  | @moveAssign dst src rc old obj hne hdst hsrc hready =>
      rcases hcalls (joinCalls_tid old) ht with hbefore | howned
      · exact .inl hbefore
      · exact .inr ((done_or_failed hdst hready howned).imp_right fun h => ⟨hne, h⟩)
  | @join o rc obj hobj hready | @destroy o rc obj hobj hready =>
      rcases hcalls (joinCalls_tid obj) ht with hbefore | howned
      · exact .inl hbefore
      · exact .inr (done_or_failed hobj hready howned)
  | @detach o obj hobj =>
      rcases hcalls (detachCalls_tid obj) ht with hbefore | howned
      · exact .inl hbefore
      · refine .inr (.inr ?_)
        show (s.objs o).owned = some t
        rw [hobj, howned]

/-- **A run.**  A thread that was given up is done, or was let go on the way. -/
theorem done_of_disposed {tid₀ : Tid} {initial : OsThread O} {defaults : DefaultAttr}
    {trs : List (Transition (World O) (ThreadAction O))} {s : World O}
    (hrun : Run WorldStep (World.init tid₀ initial defaults) trs s) {t : Tid}
    (hkept : ∀ tr ∈ trs, ¬ LetGo t tr.pre tr.act) (ht : t ∈ s.disposed) : s.Done t := by
  have hstep : ∀ (s : World O) (a : ThreadAction O) (s' : World O), (t ∈ s.disposed → s.Done t) →
      ¬ LetGo t s a → WorldStep s a s' → t ∈ s'.disposed → s'.Done t := by
    intro s a s' hinv hok hstep hmem
    rcases disposed_step hstep hmem with hbefore | hdone | hlet
    · exact done_step hstep (hinv hbefore)
    · exact done_step hstep hdone
    · exact absurd hlet hok
  exact (hrun.guarded_invariant _ hstep hkept fun hnil => by cases hnil).1 ht

/-- **Threads end with their objects.**  Take any run of constructions that set `mDetach`, moves, assignments,
joins, detaches and destructions, and a thread constructed joinable that no step of the run lets go.  As long
as the thread is not done exactly one object owns it, however often ownership was moved; so once no object is
left the thread is done. -/
theorem threads_end_with_objects {tid₀ : Tid} {initial : OsThread O} {defaults : DefaultAttr}
    {trs : List (Transition (World O) (ThreadAction O))} {s : World O}
    (hrun : Run WorldStep (World.init tid₀ initial defaults) trs s)
    (hexplicit : ∀ tr ∈ trs, ExplicitDetach tr.act) {t : Tid} (hjoinable : s.Joinable t)
    (hkept : ∀ tr ∈ trs, ¬ LetGo t tr.pre tr.act) :
    (¬ s.Done t → ∃! o, ∃ obj, s.objs o = .live obj ∧ obj.mJoin = true ∧ obj.mTid = t) ∧
      ((∀ o obj, s.objs o ≠ .live obj) → s.Done t) := by
  have hlin := linear_of_run hrun hexplicit
  have howner : ¬ s.Done t → ∃! o, ∃ obj, s.objs o = .live obj ∧ obj.mJoin = true ∧ obj.mTid = t := by
    intro hrunning
    have hout : t ∉ s.disposed := fun ht => hrunning (done_of_disposed hrun hkept ht)
    obtain ⟨o, ho, huniq⟩ := hlin.existsUnique_holder hjoinable hout
    exact ⟨o, owned_eq_some.mp ho, fun o' ho' => huniq o' (owned_eq_some.mpr ho')⟩
  refine ⟨howner, fun hgone => ?_⟩
  by_contra hrunning
  obtain ⟨o, ⟨obj, hobj, -⟩, -⟩ := howner hrunning
  exact hgone o obj hobj

/-- A joinable thread runs to its end, and the destructor of its object joins it. -/
theorem threads_end_with_objects_joined :
    ∃ trs s, Run WorldStep (World.init 0 (mainThread : OsThread Unit) plainDefaults) trs s ∧
      s.Joinable 1 ∧ s.objs () = .dead ∧ s.Done 1 := by
  -- the test of `mSched`, `pthread_setname_np`, the callable
  have hrun := Run.cons
    (step_first_plain () "worker" none false (some false) (stackChosen_first (some false)))
    (.cons (step_entry_plain rfl rfl)
    (.cons (step_entry_plain rfl rfl)
    (.cons (step_entry_plain rfl rfl)
    (.single (@WorldStep.destroy Unit _ _ () 0 _ rfl fun _ _ => ⟨_, rfl, rfl⟩)))))
  refine ⟨_, _, hrun, ⟨_, _, rfl, rfl, rfl⟩, rfl, ?_⟩
  have hends := threads_end_with_objects (t := 1) hrun (by simp [ExplicitDetach, plainConfig])
    ⟨_, _, rfl, rfl, rfl⟩ (by simp [LetGo])
  exact hends.2 fun o obj hobj => by cases hobj

end AxzlCore

import AxzlCore.Thread.PoolInvariant

/-!
# What operations do with thread ids

Moving copies the id of a thread and leaves it in the source; joining does not clear it.  `Join`, `Detach` and
the destructor are guarded by `mJoin`, so they touch a thread only through its owner.  `UpdatePriority` has no
guard: it hands whatever id its object holds to the pthread library, and logs a failure through whatever
logger it holds.

* `IdsSafe` — a step gives no call the id of a joined thread; on a moved-from object it touches no thread of
  another object; it logs through no null pointer.
* `idsSafe_of_owned` — the guarded operations are safe.
* `ids_safe_iff` — a run is safe exactly when its calls of `UpdatePriority` are on objects fit for it, and no
  start-up fails in a moved-from object.
-/

set_option autoImplicit false

namespace AxzlCore

open Errno Function Runs

variable {O : Type}

/-- The object was moved from, or is a copy of one that was: its logger is null. -/
def Thread.IsMovedFrom (obj : Thread) : Prop := obj.mLog = none

/-- The object an operation is called on. -/
def PoolAction.target : PoolAction O → Option O
  | .join o _ | .detach o _ | .destroy o _ | .updatePriority _ o _ _ => some o
  | .moveAssign dst _ _ => some dst
  | .world _ | .constructThrows _ _ _ _ _ => none

/-- What a step may do with thread ids and loggers. -/
structure IdsSafe (tr : Transition (Pool O) (PoolAction O)) : Prop where
  /-- No call is given the id of a thread that was joined. -/
  alive : ∀ use ∈ tr.post.uses, use.tid ∉ tr.pre.joined
  /-- An operation on a moved-from object makes no call about a thread that another object owns. -/
  notForeign : ∀ o obj, tr.act.target = some o → tr.pre.objs o = .live obj → obj.IsMovedFrom →
    ∀ use ∈ tr.post.uses, ∀ o', o' ≠ o → (tr.pre.objs o').owned ≠ some use.tid
  /-- Nothing is logged through a null pointer. -/
  logger : ∀ entry ∈ tr.post.logged, entry.1 ≠ none

/-- The thread of the object was not joined; and if the object was moved from, no other object owns that thread
and no OS call of `UpdatePriority` fails on it. -/
def FitForUpdate (s : Pool O) (o : O) (os : PriorityResults) (obj : Thread) : Prop :=
  obj.mTid ∉ s.joined ∧
    (obj.IsMovedFrom → (∀ o', o' ≠ o → (s.objs o').owned ≠ some obj.mTid) ∧
      ¬ os.Fails (s.threads obj.mTid))

/-- The condition on a step: `UpdatePriority` is called on an object fit for it, and the start-up of a thread
does not fail in a moved-from object. -/
def PoolAction.Guarded (s : Pool O) : PoolAction O → Prop
  | .updatePriority _ o _ os => ∀ obj, s.objs o = .live obj → FitForUpdate s o os obj
  | .world (.entry tid _) =>
      s.entryThrows tid = true → ∀ obj, s.thisObj tid = some obj → ¬ obj.IsMovedFrom
  | _ => True

/-! ## The guarded operations -/

section Owned

variable {s s' : Pool O} {a : PoolAction O} {o : O} {obj : Thread}

theorem mem_ownedTids {t : Tid} : t ∈ obj.ownedTids ↔ obj.mJoin = true ∧ t = obj.mTid := by
  cases hjoin : obj.mJoin with
  | true => simp [ownedTids_of_owner hjoin]
  | false => simp [ownedTids_of_not_owner hjoin]

/-- A step whose calls are about the thread its object owns is safe, if it logs through a logger. -/
theorem idsSafe_of_owned (hinv : PoolInv s) (hobj : s.objs o = .live obj) (htarget : a.target = some o)
    (huses : ∀ use ∈ s'.uses, use.tid ∈ obj.ownedTids)
    (hlogged : ∀ entry ∈ s'.logged, entry.1 ≠ none) : IdsSafe ⟨s, a, s'⟩ where
  alive use huse := by
    obtain ⟨howner, htid⟩ := mem_ownedTids.mp (huses use huse)
    rw [htid]
    exact hinv.owner_not_joined hobj howner
  notForeign o' obj' htarget' hobj' hmoved use huse := by
    -- the object owns a thread, so it has its logger
    obtain ⟨howner, -⟩ := mem_ownedTids.mp (huses use huse)
    rw [htarget] at htarget'
    cases htarget'
    rw [hobj] at hobj'
    cases hobj'
    exact absurd hmoved (hinv.logger o obj hobj howner)
  logger := hlogged

/-- So is a step that makes no such call. -/
theorem idsSafe_of_quiet (huses : s'.uses = []) (hlogged : ∀ entry ∈ s'.logged, entry.1 ≠ none) :
    IdsSafe ⟨s, a, s'⟩ := by
  refine ⟨fun use huse => ?_, fun o obj _ _ _ use huse => ?_, hlogged⟩
  · rw [huses] at huse
    cases huse
  · rw [huses] at huse
    cases huse

theorem joinLogs_logger (hinv : PoolInv s) (hobj : s.objs o = .live obj) (rc : Rc) :
    ∀ entry ∈ obj.joinLogs rc, entry.1 ≠ none := by
  intro entry hentry
  unfold Thread.joinLogs at hentry
  split at hentry
  · next howner =>
      have hlog := hinv.logger o obj hobj howner
      simp only [List.mem_cons, List.not_mem_nil, or_false] at hentry
      rcases hentry with rfl | rfl
      · exact hlog
      · exact hlog
  · cases hentry

theorem tid_of_mem_map {call : Tid → PthreadCall} (hcall : ∀ t, (call t).tid = t) {use : PthreadCall}
    {tids : List Tid} (huse : use ∈ tids.map call) : use.tid ∈ tids := by
  obtain ⟨t, ht, rfl⟩ := List.mem_map.mp huse
  rw [hcall]
  exact ht

end Owned

/-! ## `UpdatePriority` -/

/-- All calls of `UpdatePriority` are about the thread its object names, and it makes one. -/
theorem uses_updatePriority {uses : List PthreadCall} {tid : Tid}
    (huses : ∃ more : List PthreadCall, (∀ use ∈ more, use.tid = tid) ∧
      uses = more ++ [PthreadCall.getschedparam tid]) (P : Tid → Prop) :
    (∀ use ∈ uses, P use.tid) ↔ P tid := by
  obtain ⟨more, hmore, rfl⟩ := huses
  constructor
  · intro h
    exact h (.getschedparam tid) (by simp)
  · intro h use huse
    rcases List.mem_append.mp huse with hin | hlast
    · rw [hmore use hin]
      exact h
    · rw [List.mem_singleton.mp hlast]
      exact h

/-- `UpdatePriority` is safe exactly on an object fit for it. -/
theorem idsSafe_updatePriority_iff {s s' : Pool O} {caller : Tid} {o : O} {prio : Int}
    {os : PriorityResults} {obj : Thread} (hobj : s.objs o = .live obj)
    (huses : ∃ more : List PthreadCall, (∀ use ∈ more, use.tid = obj.mTid) ∧
      s'.uses = more ++ [PthreadCall.getschedparam obj.mTid])
    (hlogged : (∀ entry ∈ s'.logged, entry.1 ≠ none) ↔
      (obj.IsMovedFrom → ¬ os.Fails (s.threads obj.mTid))) :
    IdsSafe ⟨s, .updatePriority caller o prio os, s'⟩ ↔
      PoolAction.Guarded s (.updatePriority caller o prio os) := by
  constructor
  · rintro ⟨halive, hforeign, hlogger⟩ obj' hobj'
    rw [hobj] at hobj'
    cases hobj'
    refine ⟨(uses_updatePriority huses fun t => t ∉ s.joined).mp halive, fun hmoved =>
      ⟨fun o' ho' => ?_, hlogged.mp hlogger hmoved⟩⟩
    have hnone := hforeign o obj rfl hobj hmoved
    exact (uses_updatePriority huses fun t => (s.objs o').owned ≠ some t).mp fun use huse =>
      hnone use huse o' ho'
  · intro hguarded
    obtain ⟨hjoined, hmoved⟩ := hguarded obj hobj
    refine ⟨(uses_updatePriority huses fun t => t ∉ s.joined).mpr hjoined, ?_,
      hlogged.mpr fun h => (hmoved h).2⟩
    intro o₁ obj₁ htarget hobj₁ hmoved₁ use huse o' ho'
    cases htarget
    change s.objs o = .live obj₁ at hobj₁
    rw [hobj] at hobj₁
    cases hobj₁
    have hnone := (hmoved hmoved₁).1 o' ho'
    exact (uses_updatePriority huses fun t => (s.objs o').owned ≠ some t).mpr hnone use huse

/-! ## Steps and runs -/

variable [DecidableEq O]

omit [DecidableEq O] in
theorem mem_logs_entry {s : World O} {tid : Tid} {rc : Rc} {entry : LogPtr × Severity} :
    entry ∈ (ThreadAction.entry tid rc : ThreadAction O).logs s ↔
      s.entryThrows tid = true ∧ ∃ obj, s.thisObj tid = some obj ∧ entry = (obj.mLog, .critical) := by
  change entry ∈ (if s.entryThrows tid then _ else _ : List _) ↔ _
  split
  · next hthrows => simp [hthrows, eq_comm]
  · next hthrows => simp [hthrows]

/-- The steps of the world that use no thread id. -/
theorem idsSafe_world_iff {s : Pool O} {a : ThreadAction O} {w : World O} {s' : Pool O}
    (hquiet : a.Quiet) (hstep : WorldStep s.toWorld a w) (huses : s'.uses = [])
    (hlogged : s'.logged = a.logs s.toWorld) :
    IdsSafe ⟨s, .world a, s'⟩ ↔ PoolAction.Guarded s (.world a) := by
  have hnothing : a.logs s.toWorld = [] → IdsSafe ⟨s, .world a, s'⟩ := fun hlogs =>
    idsSafe_of_quiet huses (by rw [hlogged, hlogs]; simp)
  cases hstep with
  | @construct creator tid o name log cfg =>
      refine iff_of_true (idsSafe_of_quiet huses ?_) trivial
      rw [hlogged]
      intro entry hentry
      rw [List.mem_singleton.mp hentry]
      exact orDefaultLog_ne_none log
  | moveConstruct | moveAssignSelf | retune | setDefaults => exact iff_of_true (hnothing rfl) trivial
  | moveAssign hne => exact absurd hquiet hne
  | join | detach | destroy => exact hquiet.elim
  | @entry tid rc th birth hthread hbirth =>
      constructor
      · rintro ⟨-, -, hlogger⟩ hthrows obj hobj hmoved
        refine hlogger (obj.mLog, .critical) ?_ hmoved
        show _ ∈ s'.logged
        rw [hlogged]
        exact mem_logs_entry.mpr ⟨hthrows, obj, hobj, rfl⟩
      · intro hguarded
        refine idsSafe_of_quiet huses fun entry hentry => ?_
        rw [hlogged] at hentry
        obtain ⟨hthrows, obj, hobj, rfl⟩ := mem_logs_entry.mp hentry
        exact hguarded hthrows obj hobj

/-- **One step** is safe exactly when it is guarded. -/
theorem idsSafe_step_iff {s s' : Pool O} {a : PoolAction O} (hinv : PoolInv s)
    (hstep : PoolStep s a s') : IdsSafe ⟨s, a, s'⟩ ↔ a.Guarded s := by
  cases hstep with
  | world hquiet hstep => exact idsSafe_world_iff hquiet hstep rfl rfl
  | @constructThrows creator tid o name log cfg os rcCreate self e hcreator hrunning hslot hbuild =>
      refine iff_of_true (idsSafe_of_quiet rfl fun entry hentry => ?_) trivial
      rw [List.mem_singleton.mp hentry]
      exact orDefaultLog_ne_none log
  | moveAssign hne hdst hsrc hready hrun =>
      rw [assignFrom_ran] at hrun
      cases hrun
      exact iff_of_true (idsSafe_of_owned hinv hdst rfl (fun use => tid_of_mem_map fun _ => rfl)
        (joinLogs_logger hinv hdst _)) trivial
  | join hobj hready hrun =>
      rw [join_ran] at hrun
      cases hrun
      exact iff_of_true (idsSafe_of_owned hinv hobj rfl (fun use => tid_of_mem_map fun _ => rfl)
        (joinLogs_logger hinv hobj _)) trivial
  | detach hobj hrun =>
      rw [detach_ran] at hrun
      split at hrun
      · cases hrun
      · cases hrun
        exact iff_of_true (idsSafe_of_owned hinv hobj rfl (fun use => tid_of_mem_map fun _ => rfl)
          (by simp [Pool.ran])) trivial
  | @detachThrows o rc obj e r hobj hrun =>
      rw [detach_ran] at hrun
      split at hrun
      · next hfails =>
          cases hrun
          refine iff_of_true (idsSafe_of_owned hinv hobj rfl (fun use huse => ?_) fun entry hentry => ?_)
            trivial
          · rw [List.mem_singleton.mp huse]
            exact mem_ownedTids.mpr ⟨hfails.1, rfl⟩
          · rw [List.mem_singleton.mp hentry]
            exact hinv.logger o obj hobj hfails.1
      · cases hrun
  | @destroy o rc obj r hobj hready hrun =>
      obtain ⟨logged, hran, hlogged⟩ := destruct_ran rc s obj
      rw [hran] at hrun
      cases hrun
      refine iff_of_true (idsSafe_of_owned hinv hobj rfl (fun use => tid_of_mem_map fun _ => rfl)
        fun entry hentry => ?_) trivial
      rcases List.mem_append.mp hentry with hown | hjoin
      · exact hlogged entry hown
      · exact joinLogs_logger hinv hobj rc entry hjoin
  | @updatePriority caller o prio os self obj r hcaller hrunning hobj hrun =>
      obtain ⟨th, -, hfails, hdone⟩ := updatePriority_ok hrun
      refine idsSafe_updatePriority_iff hobj hdone.uses (iff_of_true (fun entry hentry => ?_) fun _ => hfails)
      have hnone : r.logged = [] := hdone.logged
      change entry ∈ r.logged at hentry
      rw [hnone] at hentry
      cases hentry
  | @updatePriorityThrows caller o prio os self obj e r hcaller hrunning hobj hrun =>
      obtain ⟨hfails, hrefused⟩ := updatePriority_error hrun
      have hlogged : r.logged = [(obj.mLog, .critical)] := hrefused.logged
      refine idsSafe_updatePriority_iff hobj hrefused.uses ?_
      show (∀ entry ∈ r.logged, entry.1 ≠ none) ↔ _
      rw [hlogged, List.forall_mem_singleton]
      exact ⟨fun hlog hmoved => absurd hmoved hlog, fun h hmoved => h hmoved hfails⟩

/-- **Exactly when thread ids are used safely.**  In a run of any operations on any objects, from any initial
thread, every step is safe if and only if every step is guarded. -/
theorem ids_safe_iff {tid₀ : Tid} {initial : OsThread O} {defaults : DefaultAttr}
    {trs : List (Transition (Pool O) (PoolAction O))} {s : Pool O}
    (hrun : Run PoolStep (Pool.init tid₀ initial defaults) trs s) :
    (∀ tr ∈ trs, IdsSafe tr) ↔ ∀ tr ∈ trs, tr.act.Guarded tr.pre :=
  hrun.forall_iff fun tr htr hstep => idsSafe_step_iff (poolInv_of_run hrun tr htr) hstep

/-- An owner may be asked to change the priority of its thread. -/
theorem ids_safe_owner :
    ∃ trs s, Run PoolStep (Pool.init 0 (mainThread : OsThread Unit) plainDefaults) trs s ∧
      s.uses = [.getschedparam 1] ∧ ∀ tr ∈ trs, IdsSafe tr := by
  have hbuild := construct_plain "worker" none false (some false) (mainThread : OsThread Unit).getattr
    plainDefaults.toPthreadAttr 1
  have hrun := Run.cons (poolStep_first (o := ()) hbuild (stackChosen_first (some false)))
    (.single (@PoolStep.updatePriority Unit _ _ 0 () 5 ⟨0, 0, .done⟩ _ _ _ rfl rfl rfl rfl))
  refine ⟨_, _, hrun, rfl, (ids_safe_iff hrun).mpr ?_⟩
  intro tr htr
  simp only [List.mem_cons, List.not_mem_nil, or_false] at htr
  rcases htr with rfl | rfl
  · trivial
  · intro obj hobj
    cases hobj
    exact ⟨by simp [Pool.firstBorn], fun hmoved => by cases hmoved⟩

/-- A thread is moved to another object and joined there; `UpdatePriority` on the object it was moved from then
gives its id to the pthread library, and logs the error through a null pointer. -/
theorem joined_id_used :
    ∃ trs s, Run PoolStep (Pool.init 0 (mainThread : OsThread Bool) plainDefaults) trs s ∧
      s.joined = [1] ∧ s.uses = [.getschedparam 1] ∧ s.logged = [(none, .critical)] ∧
      ¬ ∀ tr ∈ trs, IdsSafe tr := by
  have hbuild := construct_plain "worker" none false (some false) (mainThread : OsThread Bool).getattr
    plainDefaults.toPthreadAttr 1
  have hrun := Run.cons (poolStep_first (o := true) hbuild (stackChosen_first (some false)))
    (.cons (@PoolStep.world Bool _ _ (.moveConstruct false true) _ trivial (.moveConstruct rfl rfl))
    -- the thread sets its name, runs and ends
    (.cons (@PoolStep.world Bool _ _ (.entry 1 0) _ trivial (.entry rfl rfl))
    (.cons (@PoolStep.world Bool _ _ (.entry 1 0) _ trivial (.entry rfl rfl))
    (.cons (@PoolStep.world Bool _ _ (.entry 1 0) _ trivial (.entry rfl rfl))
    (.cons (@PoolStep.join Bool _ _ false 0 _ _ rfl (fun _ _ => ⟨_, rfl, rfl⟩) rfl)
    (.single (@PoolStep.updatePriorityThrows Bool _ _ 0 true 5 ⟨ESRCH, 0, .done⟩ _ _ _ _ rfl rfl rfl
      rfl)))))))
  refine ⟨_, _, hrun, rfl, rfl, rfl, fun hall => ?_⟩
  have hlast := hall _ (List.mem_cons_of_mem _ (List.mem_cons_of_mem _ (List.mem_cons_of_mem _
    (List.mem_cons_of_mem _ (List.mem_cons_of_mem _ (List.mem_cons_of_mem _ List.mem_cons_self))))))
  exact hlast.alive (.getschedparam 1) List.mem_cons_self List.mem_cons_self

end AxzlCore

import AxzlCore.Library.LinearOwnership
import AxzlCore.Thread.World

/-!
# Which object owns which thread

An object owns the thread it names as long as its `mJoin` is true: then, and only then, will it be passed to
`pthread_join` or `pthread_detach`.  The world is a linear registry of threads: constructing a joinable
thread issues it to its object, moving hands it over, and `Join`, `Detach`, the destructor and an assignment
over the object retire it.

* `registry_world_step` — the refinement, step by step (a move assignment is up to two steps: it retires
  the thread of its target, then takes over that of its source).
* `logger_step` — an object that owns a thread has a logger.
* `threads_owned_linearly` — what follows for every reachable world.
-/

set_option autoImplicit false

namespace AxzlCore

open Function LinearOwnership Runs

variable {O : Type} [DecidableEq O]

/-- The thread an object owns. -/
def ObjSlot.owned : ObjSlot → Option Tid
  | .live obj => if obj.mJoin then some obj.mTid else none
  | .unborn | .dead => none

/-- The thread was constructed in the joinable state. -/
def World.Joinable (s : World O) (t : Tid) : Prop :=
  ∃ th birth, s.threads t = some th ∧ th.birth = some birth ∧ birth.detached = false

/-- The threads passed to `pthread_join` or `pthread_detach` so far. -/
def World.disposed (s : World O) : List Tid := s.calls.map OsCall.tid

/-- Objects as a registry of threads: what they own, what was issued to them, and what they disposed of. -/
def threadRegistry (objs : O → ObjSlot) (issued : Set Tid) (disposed : List Tid) : Registry O Tid where
  holds := ObjSlot.owned ∘ objs
  issued := issued
  retired := Multiset.ofList disposed

/-- The world as a registry of threads. -/
def World.registry (s : World O) : Registry O Tid where
  holds := ObjSlot.owned ∘ s.objs
  issued := {t | s.Joinable t}
  retired := Multiset.ofList s.disposed

/-- The construction says whether the thread is to be joinable or detached. -/
def ExplicitDetach : ThreadAction O → Prop
  | .construct _ _ _ _ cfg _ => cfg.mDetach ≠ none
  | _ => True

/-! ## What the operations do to ownership -/

@[simp] theorem owned_unborn : ObjSlot.unborn.owned = none := rfl

@[simp] theorem owned_dead : ObjSlot.dead.owned = none := rfl

@[simp] theorem owned_released (obj : Thread) : (ObjSlot.live obj.released).owned = none := rfl

@[simp] theorem owned_movedFrom (obj : Thread) : (ObjSlot.live obj.movedFrom).owned = none := rfl

@[simp] theorem owned_moveConstruct (obj : Thread) :
    (ObjSlot.live obj.moveConstruct).owned = (ObjSlot.live obj).owned := rfl

@[simp] theorem owned_moveAssign (old obj : Thread) :
    (ObjSlot.live (old.moveAssign obj)).owned = (ObjSlot.live obj).owned := rfl

/-- `Join` disposes of the thread the object owns, and of nothing else. -/
theorem joinCalls_tid (obj : Thread) :
    obj.joinCalls.map OsCall.tid = (ObjSlot.live obj).owned.toList := by
  show (if obj.mJoin then _ else _ : List OsCall).map _ = (if obj.mJoin then _ else _ : Option _).toList
  split
  · rfl
  · rfl

/-- So does `Detach`. -/
theorem detachCalls_tid (obj : Thread) :
    obj.detachCalls.map OsCall.tid = (ObjSlot.live obj).owned.toList := by
  show (if obj.mJoin then _ else _ : List OsCall).map _ = (if obj.mJoin then _ else _ : Option _).toList
  split
  · rfl
  · rfl

/-! ## The operations as paths of the registry -/

section Paths

variable {objs : O → ObjSlot} {issued : Set Tid} {disposed : List Tid}

/-- A construction issues its thread to its object, if the object owns it. -/
theorem threadRegistry_construct {o : O} {obj : Thread} (hslot : objs o = .unborn)
    (hfresh : ∀ t, (ObjSlot.live obj).owned = some t → t ∉ issued) :
    Relation.ReflTransGen LinearOwnership.Step (threadRegistry objs issued disposed)
      (threadRegistry (update objs o (.live obj)) {t | (ObjSlot.live obj).owned = some t ∨ t ∈ issued}
        disposed) := by
  have hidle : (threadRegistry objs issued disposed).holds o = none := congrArg ObjSlot.owned hslot
  have hpath := steps_issue hidle hfresh
  unfold threadRegistry at hpath ⊢
  rw [comp_update]
  exact hpath

/-- An operation that disposes of what an object owns, and takes its ownership away. -/
theorem threadRegistry_release {o : O} {obj : Thread} {slot : ObjSlot} (hobj : objs o = .live obj)
    (hslot : slot.owned = none) :
    Relation.ReflTransGen LinearOwnership.Step (threadRegistry objs issued disposed)
      (threadRegistry (update objs o slot) issued ((ObjSlot.live obj).owned.toList ++ disposed)) := by
  have hheld : (threadRegistry objs issued disposed).holds o = (ObjSlot.live obj).owned :=
    congrArg ObjSlot.owned hobj
  have hpath := steps_release hheld
  unfold threadRegistry at hpath ⊢
  rw [comp_update, hslot, ← Multiset.coe_add]
  exact hpath

/-- An operation that leaves an object what it owns. -/
theorem threadRegistry_keep {o : O} {obj obj' : Thread} (hobj : objs o = .live obj)
    (howned : (ObjSlot.live obj').owned = (ObjSlot.live obj).owned) :
    Relation.ReflTransGen LinearOwnership.Step (threadRegistry objs issued disposed)
      (threadRegistry (update objs o (.live obj')) issued disposed) := by
  have hholds : ObjSlot.owned ∘ update objs o (.live obj') = ObjSlot.owned ∘ objs := by
    rw [comp_update, howned, ← hobj]
    exact update_eq_self o _
  unfold threadRegistry
  rw [hholds]

/-- Move construction hands the thread of the source over to the new object. -/
theorem threadRegistry_moveConstruct {dst src : O} {obj : Thread} (hdst : objs dst = .unborn)
    (hsrc : objs src = .live obj) :
    Relation.ReflTransGen LinearOwnership.Step (threadRegistry objs issued disposed)
      (threadRegistry (update (update objs src (.live obj.movedFrom)) dst (.live obj.moveConstruct)) issued
        disposed) := by
  have hheld : (threadRegistry objs issued disposed).holds src = (ObjSlot.live obj).owned :=
    congrArg ObjSlot.owned hsrc
  have hidle : (threadRegistry objs issued disposed).holds dst = none := congrArg ObjSlot.owned hdst
  have hpath := steps_handOver hheld hidle
  unfold threadRegistry at hpath ⊢
  rw [comp_update, comp_update, owned_movedFrom, owned_moveConstruct]
  exact hpath

/-- Move assignment first disposes of the thread of its target, then takes over that of its source. -/
theorem threadRegistry_moveAssign {dst src : O} {old obj : Thread} (hne : dst ≠ src)
    (hdst : objs dst = .live old) (hsrc : objs src = .live obj) :
    Relation.ReflTransGen LinearOwnership.Step (threadRegistry objs issued disposed)
      (threadRegistry (update (update objs src (.live obj.movedFrom)) dst
        (.live (old.released.moveAssign obj))) issued ((ObjSlot.live old).owned.toList ++ disposed)) := by
  have hrelease : Relation.ReflTransGen LinearOwnership.Step (threadRegistry objs issued disposed)
      (threadRegistry (update objs dst .dead) issued ((ObjSlot.live old).owned.toList ++ disposed)) :=
    threadRegistry_release hdst owned_dead
  have hheld : (threadRegistry (update objs dst .dead) issued
      ((ObjSlot.live old).owned.toList ++ disposed)).holds src = (ObjSlot.live obj).owned := by
    show (update objs dst .dead src).owned = _
    rw [update_of_ne hne.symm, hsrc]
  have hidle : (threadRegistry (update objs dst .dead) issued
      ((ObjSlot.live old).owned.toList ++ disposed)).holds dst = none := by
    show (update objs dst .dead dst).owned = none
    rw [update_self]
    rfl
  -- the released target is overwritten at once
  have hholds : ObjSlot.owned ∘ update (update objs src (.live obj.movedFrom)) dst
      (.live (old.released.moveAssign obj)) =
        update (update (ObjSlot.owned ∘ update objs dst .dead) src none) dst (ObjSlot.live obj).owned := by
    rw [comp_update, comp_update, comp_update, owned_movedFrom, owned_moveAssign, update_comm hne,
      update_idem]
  have hpath := steps_handOver hheld hidle
  refine hrelease.trans ?_
  unfold threadRegistry at hpath ⊢
  rw [hholds]
  exact hpath

end Paths

/-! ## The threads a step leaves joinable -/

/-- Only a construction changes which threads were created joinable. -/
theorem joinable_of_not_construct {s s' : World O} {a : ThreadAction O} (hstep : WorldStep s a s')
    (hnone : ∀ creator o name log cfg t, a ≠ .construct creator o name log cfg t) (t : Tid) :
    s'.Joinable t ↔ s.Joinable t := by
  unfold World.Joinable
  rcases threads_step hstep t with ⟨hbefore, hafter⟩ | ⟨th, th', hth, hth', hsame⟩ | hnew
  · simp [hbefore, hafter]
  · simp [hth, hth', hsame.birth]
  · obtain ⟨creator, o, name, log, cfg, hact, -⟩ := hnew
    exact absurd hact (hnone creator o name log cfg t)

omit [DecidableEq O] in
/-- A construction adds its own thread, if it creates it joinable. -/
theorem joinable_construct {s s' : World O} {tid : Tid} {th : OsThread O} {birth : Birth O}
    (hnew : s.threads tid = none) (hbirth : th.birth = some birth)
    (hthreads : s'.threads = update s.threads tid (some th)) (t : Tid) :
    s'.Joinable t ↔ (if birth.detached then none else some tid) = some t ∨ s.Joinable t := by
  unfold World.Joinable
  rw [hthreads]
  by_cases ht : t = tid
  · subst ht
    cases hdetached : birth.detached with
    | true => simp [hnew, hbirth, hdetached]
    | false => simp [hnew, hbirth, hdetached]
  · have hother : (if birth.detached then none else some tid) ≠ some t := by
      split
      · simp
      · simpa using Ne.symm ht
    simp [ht, hother]

/-! ## Refinement -/

omit [DecidableEq O] in
/-- The registry of a world, from its parts. -/
theorem registry_eq {s : World O} {issued : Set Tid} {disposed : List Tid}
    (hissued : ∀ t, s.Joinable t ↔ t ∈ issued) (hdisposed : s.disposed = disposed) :
    s.registry = threadRegistry s.objs issued disposed := by
  have hset : {t | s.Joinable t} = issued := by
    ext t
    exact hissued t
  rw [← hset, ← hdisposed]
  rfl

omit [DecidableEq O] in
/-- A step of a release makes the calls of its object. -/
theorem disposed_release {s : World O} {obj : Thread} {calls : List OsCall}
    (hcalls : calls.map OsCall.tid = (ObjSlot.live obj).owned.toList) :
    (calls ++ s.calls).map OsCall.tid = (ObjSlot.live obj).owned.toList ++ s.disposed := by
  rw [List.map_append, hcalls]
  rfl

/-- A construction issues its thread to its object, if the thread is joinable. -/
theorem registry_world_construct {s s' : World O} {tid : Tid} {o : O} {obj : Thread}
    {th : OsThread O} {birth : Birth O} (hslot : s.objs o = .unborn) (hnew : s.threads tid = none)
    (hbirth : th.birth = some birth)
    (howned : (ObjSlot.live obj).owned = if birth.detached then none else some tid)
    (hobjs : s'.objs = update s.objs o (.live obj))
    (hthreads : s'.threads = update s.threads tid (some th)) (hcalls : s'.calls = s.calls) :
    Relation.ReflTransGen LinearOwnership.Step s.registry s'.registry := by
  have hissued : ∀ t, s'.Joinable t ↔ t ∈ {t | (ObjSlot.live obj).owned = some t ∨ t ∈ {t | s.Joinable t}} := by
    rw [howned]
    exact joinable_construct hnew hbirth hthreads
  have hdisposed : s'.disposed = s.disposed := congrArg (List.map OsCall.tid) hcalls
  have hfresh : ∀ t, (ObjSlot.live obj).owned = some t → t ∉ {t | s.Joinable t} := by
    rintro t ht ⟨th', birth', hth', -⟩
    rw [howned] at ht
    split at ht
    · cases ht
    · cases ht
      rw [hnew] at hth'
      cases hth'
  rw [registry_eq hissued hdisposed, hobjs]
  exact threadRegistry_construct hslot hfresh

/-- **Refinement.**  Every step of the world is a path of the linear registry of threads. -/
theorem registry_world_step {s s' : World O} {a : ThreadAction O} (hexplicit : ExplicitDetach a)
    (hstep : WorldStep s a s') :
    Relation.ReflTransGen LinearOwnership.Step s.registry s'.registry := by
  have hsame : (∀ creator o name log cfg t, a ≠ .construct creator o name log cfg t) →
      ∀ t, s'.Joinable t ↔ s.Joinable t := joinable_of_not_construct hstep
  cases hstep with
  | @construct creator tid o name log cfg os rcCreate self obj attr stack hcreator hrunning hslot
      hnew hbuild hstack =>
      obtain ⟨hobj, hdetached, -⟩ := Thread.construct_ok hbuild
      obtain ⟨detach, hdetach⟩ := Option.ne_none_iff_exists'.mp hexplicit
      rw [hdetach] at hobj hdetached
      refine registry_world_construct hslot hnew rfl ?_ rfl rfl rfl
      show _ = if attr.detached then none else some tid
      rw [hdetached, hobj]
      cases detach with
      | true => rfl
      | false => rfl
  | moveConstruct hdst hsrc =>
      rw [registry_eq (hsame (by simp)) rfl]
      exact threadRegistry_moveConstruct hdst hsrc
  | moveAssignSelf hobj => exact .refl
  | moveAssign hne hdst hsrc hready =>
      rw [registry_eq (hsame (by simp)) (disposed_release (joinCalls_tid _))]
      exact threadRegistry_moveAssign hne hdst hsrc
  | join hobj hready =>
      rw [registry_eq (hsame (by simp)) (disposed_release (joinCalls_tid _))]
      exact threadRegistry_release hobj (owned_released _)
  | detach hobj =>
      rw [registry_eq (hsame (by simp)) (disposed_release (detachCalls_tid _))]
      exact threadRegistry_release hobj (owned_released _)
  | destroy hobj hready =>
      rw [registry_eq (hsame (by simp)) (disposed_release (joinCalls_tid _))]
      exact threadRegistry_release hobj owned_dead
  | entry hthread hbirth | retune hthread | setDefaults =>
      rw [registry_eq (hsame (by simp)) rfl]
      exact .refl

/-! ## Loggers -/

/-- An object that owns a thread has a logger. -/
def LoggerKept (s : World O) : Prop :=
  ∀ o obj, s.objs o = .live obj → obj.mJoin = true → obj.mLog ≠ none

/-- A live object after one place of the objects changed. -/
theorem live_update {objs : O → ObjSlot} {o o' : O} {slot : ObjSlot} {obj : Thread}
    (h : update objs o slot o' = .live obj) : slot = .live obj ∨ objs o' = .live obj := by
  rw [update_apply] at h
  split at h
  · exact .inl h
  · exact .inr h

/-- A live object after a move: the target, the source, or another object. -/
theorem live_moved {objs : O → ObjSlot} {src dst o' : O} {slot slot' : ObjSlot} {obj : Thread}
    (h : update (update objs src slot) dst slot' o' = .live obj) :
    slot' = .live obj ∨ slot = .live obj ∨ objs o' = .live obj := by
  rcases live_update h with hdst | hmid
  · exact .inl hdst
  · exact .inr (live_update hmid)

theorem logger_step {s s' : World O} {a : ThreadAction O} (hlog : LoggerKept s)
    (hstep : WorldStep s a s') : LoggerKept s' := by
  intro o' obj' hobj' hjoin
  cases hstep with
  | @construct creator tid o name log cfg os rcCreate self obj attr stack hcreator hrunning hslot
      hnew hbuild hstack =>
      obtain ⟨rfl, -, -⟩ := Thread.construct_ok hbuild
      rcases live_update hobj' with hnewobj | hbefore
      · cases hnewobj
        exact orDefaultLog_ne_none log
      · exact hlog o' obj' hbefore hjoin
  | @moveConstruct dst src obj hdst hsrc =>
      rcases live_moved hobj' with htarget | hsource | hbefore
      · -- the target has logger and flag of the source
        cases htarget
        exact hlog src obj hsrc hjoin
      · cases hsource
        cases hjoin
      · exact hlog o' obj' hbefore hjoin
  | moveAssignSelf hobj => exact hlog o' obj' hobj' hjoin
  | @moveAssign dst src rc old obj hne hdst hsrc hready =>
      rcases live_moved hobj' with htarget | hsource | hbefore
      · cases htarget
        exact hlog src obj hsrc hjoin
      · cases hsource
        cases hjoin
      · exact hlog o' obj' hbefore hjoin
  | join hobj hready | detach hobj =>
      rcases live_update hobj' with hnewobj | hbefore
      · cases hnewobj
        cases hjoin
      · exact hlog o' obj' hbefore hjoin
  | destroy hobj hready =>
      rcases live_update hobj' with hnewobj | hbefore
      · cases hnewobj
      · exact hlog o' obj' hbefore hjoin
  | entry hthread hbirth | retune hthread | setDefaults => exact hlog o' obj' hobj' hjoin

/-! ## Runs -/

/-- Every thread has the owner it should have. -/
structure OwnedLinearly (s : World O) : Prop where
  /-- A joinable thread not yet joined or detached is named by exactly one object with `mJoin` true. -/
  owner : ∀ t, s.Joinable t → t ∉ s.disposed →
    ∃! o, ∃ obj, s.objs o = .live obj ∧ obj.mJoin = true ∧ obj.mTid = t
  /-- No thread is passed to more than one call. -/
  once : s.disposed.Nodup
  /-- A thread created detached is passed to none. -/
  detached : ∀ t th birth, s.threads t = some th → th.birth = some birth → birth.detached = true →
    t ∉ s.disposed
  /-- Once all objects are gone every joinable thread has been joined or detached exactly once (where
  `pthread_join` fails, passed to it once). -/
  drained : (∀ o obj, s.objs o ≠ .live obj) → ∀ t, s.Joinable t → s.disposed.count t = 1
  /-- An object with `mJoin` true has a logger. -/
  logger : LoggerKept s

omit [DecidableEq O] in
theorem owned_eq_some {slot : ObjSlot} {t : Tid} :
    slot.owned = some t ↔ ∃ obj, slot = .live obj ∧ obj.mJoin = true ∧ obj.mTid = t := by
  cases slot with
  | unborn => simp
  | dead => simp
  | live obj =>
      show (if obj.mJoin then some obj.mTid else none) = some t ↔ _
      cases hjoin : obj.mJoin <;> simp [hjoin]

omit [DecidableEq O] in
theorem registry_world_init (tid₀ : Tid) (initial : OsThread O) (defaults : DefaultAttr) :
    (World.init tid₀ initial defaults).registry = Registry.empty := by
  have hnone : ∀ t, (World.init tid₀ initial defaults).Joinable t ↔ t ∈ (∅ : Set Tid) := by
    intro t
    refine iff_of_false ?_ (Set.notMem_empty t)
    rintro ⟨th, birth, hth, hbirth, -⟩
    change update (fun _ => none) tid₀ _ t = some th at hth
    rw [update_apply] at hth
    split at hth
    · cases hth
      cases hbirth
    · cases hth
  rw [registry_eq hnone rfl]
  rfl

omit [DecidableEq O] in
/-- A linear registry of threads is a world that owns its threads linearly. -/
theorem ownedLinearly_of_linear {s : World O} (hlin : Linear s.registry) (hlog : LoggerKept s) :
    OwnedLinearly s where
  owner t hjoinable hout := by
    obtain ⟨o, ho, huniq⟩ := hlin.existsUnique_holder hjoinable hout
    exact ⟨o, owned_eq_some.mp ho, fun o' ho' => huniq o' (owned_eq_some.mpr ho')⟩
  once := Multiset.coe_nodup.mp hlin.nodup
  detached t th birth hth hbirth hdetached hmem := by
    obtain ⟨th', birth', hth', hbirth', hjoinable⟩ := hlin.retired_issued t hmem
    rw [hth] at hth'
    cases hth'
    rw [hbirth] at hbirth'
    cases hbirth'
    rw [hdetached] at hjoinable
    cases hjoinable
  drained hgone t hjoinable := by
    have hidle : ∀ o, s.registry.holds o = none := by
      intro o
      show (s.objs o).owned = none
      cases hslot : s.objs o with
      | unborn => rfl
      | live obj => exact absurd hslot (hgone o obj)
      | dead => rfl
    exact (Multiset.coe_count t s.disposed).symm.trans (hlin.count_of_drained hidle hjoinable)
  logger := hlog

section Runs

variable {tid₀ : Tid} {initial : OsThread O} {defaults : DefaultAttr}
  {trs : List (Transition (World O) (ThreadAction O))} {s : World O}

/-- A run that sets `mDetach` in every construction leads to a linear registry. -/
theorem linear_of_run (hrun : Run WorldStep (World.init tid₀ initial defaults) trs s)
    (hexplicit : ∀ tr ∈ trs, ExplicitDetach tr.act) : Linear s.registry := by
  have hsteps := hrun.simulation (fun _ => True) (fun _ a => ExplicitDetach a)
    (fun _ _ _ _ _ _ => trivial) (fun _ _ _ _ hok hstep => registry_world_step hok hstep) hexplicit
    trivial
  rw [registry_world_init] at hsteps
  exact linear_of_steps linear_empty hsteps

/-- **Linear ownership of threads.**  In every world reached by constructions that set `mDetach`, moves,
assignments, joins, detaches and destructions, from any initial thread and whatever `pthread_join` returns,
ownership is linear. -/
theorem threads_owned_linearly (hrun : Run WorldStep (World.init tid₀ initial defaults) trs s)
    (hexplicit : ∀ tr ∈ trs, ExplicitDetach tr.act) : OwnedLinearly s := by
  have hlog : LoggerKept s :=
    (hrun.invariant (fun _ _ _ h hstep => logger_step h hstep) (by
      intro o obj hobj
      cases hobj)).1
  exact ownedLinearly_of_linear (linear_of_run hrun hexplicit) hlog

end Runs

/-- A joinable thread is constructed in one object, moved to another and detached there. -/
theorem threads_owned_linearly_moved :
    ∃ trs s, Run WorldStep (World.init 0 (mainThread : OsThread Bool) plainDefaults) trs s ∧
      s.disposed = [1] ∧ OwnedLinearly s := by
  have hrun := Run.cons
    (step_first_plain true "worker" none false (some false) (stackChosen_first (some false)))
    (.cons (@WorldStep.moveConstruct Bool _ _ false true _ rfl rfl) (.single (.detach (o := false) rfl)))
  refine ⟨_, _, hrun, rfl, threads_owned_linearly hrun ?_⟩
  simp [ExplicitDetach, plainConfig]

end AxzlCore

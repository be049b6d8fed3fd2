import AxzlCore.Thread.World

/-!
# Stacks of live threads

A construction that inherits the attributes of its creator (`mInherit`, the default) inherits the stack
address with them: `pthread_getattr_np` reports it, no later setter clears it, and `pthread_create` then
runs the new thread on the stack its creator is running on.

* `stack_of_construct` — the stack of a new thread: the creator's when it inherits, a fresh one when not.
* `stacks_disjoint_iff` — the stacks of live threads stay pairwise disjoint along a run exactly when none of
  its constructions inherits.
-/

set_option autoImplicit false

namespace AxzlCore

open Function Runs

variable {O : Type} [DecidableEq O]

/-- No two live threads share an address of their stacks. -/
def StacksDisjoint (s : World O) : Prop :=
  ∀ t u th uh, s.threads t = some th → s.threads u = some uh → th.pc.live = true →
    uh.pc.live = true → t ≠ u → th.stack.Disjoint uh.stack

/-- A construction starts from the process defaults. -/
def NotInherited (_ : World O) : ThreadAction O → Prop
  | .construct _ _ _ _ cfg _ => cfg.mInherit = false
  | _ => True

omit [DecidableEq O] in
/-- The stack of a new thread: with the top of its creator's stack if it inherits, else disjoint from every
stack in use. -/
theorem stack_of_construct {s : World O} {os : Thread.AttrResults} {rcCreate : Errno.Rc} {name : String}
    {log : LogPtr} {cfg : Thread.Config} {self : OsThread O} {tid : Tid} {obj : Thread}
    {attr : PthreadAttr} {stack : Region}
    (hbuild : Thread.construct os rcCreate name log cfg self.getattr s.defaults.toPthreadAttr tid =
      .ok (obj, attr)) (hstack : StackChosen s attr stack) :
    (cfg.mInherit = true → stack.top = self.stack.top) ∧
      (cfg.mInherit = false →
        ∀ t th, s.threads t = some th → th.pc.live = true → stack.Disjoint th.stack) := by
  obtain ⟨-, -, htop⟩ := Thread.construct_ok hbuild
  unfold StackChosen at hstack
  constructor
  · intro hinherit
    rw [if_pos hinherit] at htop
    rw [htop] at hstack
    change stack = ⟨self.stack.top, attr.stackSize⟩ at hstack
    rw [hstack]
  · intro hinherit
    rw [if_neg (by simp [hinherit]), s.defaults.no_stack] at htop
    rw [htop] at hstack
    exact hstack.2

/-- A step that constructs nothing keeps the stacks apart. -/
theorem stacksDisjoint_of_frame {s s' : World O} {a : ThreadAction O} (hsafe : StacksDisjoint s)
    (hstep : WorldStep s a s')
    (hnone : ∀ creator o name log cfg t, a ≠ .construct creator o name log cfg t) :
    StacksDisjoint s' := by
  have hbefore : ∀ t th', s'.threads t = some th' →
      ∃ th, s.threads t = some th ∧ SameThread th th' := by
    intro t th' hth'
    rcases threads_step hstep t with ⟨-, hnew⟩ | ⟨th, th'', hth, hth'', hsame⟩ | hnew
    · rw [hth'] at hnew
      cases hnew
    · rw [hth'] at hth''
      cases hth''
      exact ⟨th, hth, hsame⟩
    · obtain ⟨creator, o, name, log, cfg, hact, -⟩ := hnew
      exact absurd hact (hnone creator o name log cfg t)
  intro t u th' uh' hth' huh' hlive hlive' hne
  obtain ⟨th, hth, hsame⟩ := hbefore t th' hth'
  obtain ⟨uh, huh, hsame'⟩ := hbefore u uh' huh'
  rw [hsame.stack, hsame'.stack]
  exact hsafe t u th uh hth huh (hsame.live hlive) (hsame'.live hlive') hne

/-- **Exact condition for one step.**  From disjoint stacks a step leads to disjoint stacks exactly when it is
not a construction that inherits. -/
theorem stacksDisjoint_step_iff {s s' : World O} {a : ThreadAction O} (hsafe : StacksDisjoint s)
    (hstep : WorldStep s a s') : StacksDisjoint s' ↔ NotInherited s a := by
  by_cases hconstruct : ∃ creator o name log cfg t, a = .construct creator o name log cfg t
  · obtain ⟨creator, o, name, log, cfg, tid, rfl⟩ := hconstruct
    cases hstep with
    | @construct _ _ _ _ _ _ os rcCreate self obj attr stack hcreator hrunning hslot hnew hbuild
        hstack =>
        obtain ⟨hshared, hfresh⟩ := stack_of_construct hbuild hstack
        have hne : creator ≠ tid := by
          rintro rfl
          rw [hcreator] at hnew
          cases hnew
        show StacksDisjoint _ ↔ cfg.mInherit = false
        constructor
        · intro hdis
          -- the creator is alive, and the new thread has the top of its stack
          by_contra hinherit
          rw [Bool.not_eq_false] at hinherit
          have hlive : self.pc.live = true := by
            rw [hrunning]
            rfl
          exact Region.not_disjoint_of_top (hshared hinherit)
            (hdis tid creator _ self (update_self _ _ _)
              ((update_of_ne hne _ _).trans hcreator) rfl hlive hne.symm)
        · intro hinherit t u th uh hth huh hlive hlive' htu
          have hclear := hfresh hinherit
          change update s.threads tid _ t = some th at hth
          change update s.threads tid _ u = some uh at huh
          -- at most one of the two is the new thread
          by_cases ht : t = tid
          · subst ht
            rw [update_self] at hth
            rw [update_of_ne htu.symm] at huh
            cases hth
            exact hclear u uh huh hlive'
          · rw [update_of_ne ht] at hth
            by_cases hu : u = tid
            · subst hu
              rw [update_self] at huh
              cases huh
              exact (hclear t th hth hlive).symm
            · rw [update_of_ne hu] at huh
              exact hsafe t u th uh hth huh hlive hlive' htu
  · have hnone : ∀ creator o name log cfg t, a ≠ .construct creator o name log cfg t :=
      fun creator o name log cfg t hact => hconstruct ⟨creator, o, name, log, cfg, t, hact⟩
    refine iff_of_true (stacksDisjoint_of_frame hsafe hstep hnone) ?_
    cases a with
    | construct creator o name log cfg t => exact absurd rfl (hnone creator o name log cfg t)
    | moveConstruct | moveAssign | join | detach | destroy | entry | retune | setDefaults => trivial

omit [DecidableEq O] in
/-- One thread alone shares its stack with nobody. -/
theorem stacksDisjoint_init (tid₀ : Tid) (initial : OsThread O) (defaults : DefaultAttr) :
    StacksDisjoint (World.init tid₀ initial defaults) := by
  intro t u th uh hth huh _ _ hne
  have honly : ∀ v vh, (World.init tid₀ initial defaults).threads v = some vh → v = tid₀ := by
    intro v vh hvh
    by_contra hv
    change update (fun _ => none) tid₀ _ v = some vh at hvh
    rw [update_of_ne hv] at hvh
    cases hvh
  exact absurd ((honly t th hth).trans (honly u uh huh).symm) hne

/-- **Exactly when no two live threads share a stack.**  In every state of a run, whatever the configurations,
the attributes of the initial thread and the process defaults, the stacks of live threads are pairwise
disjoint if and only if no construction of the run inherits the attributes of its creator. -/
theorem stacks_disjoint_iff {tid₀ : Tid} {initial : OsThread O} {defaults : DefaultAttr}
    {trs : List (Transition (World O) (ThreadAction O))} {s : World O}
    (hrun : Run WorldStep (World.init tid₀ initial defaults) trs s) :
    (∀ tr ∈ trs, StacksDisjoint tr.post) ↔ ∀ tr ∈ trs, NotInherited tr.pre tr.act :=
  hrun.safe_iff_guarded (fun _ => True) (fun _ _ _ _ _ => trivial)
    (fun _ _ _ _ hsafe hstep => stacksDisjoint_step_iff hsafe hstep) trivial
    (stacksDisjoint_init tid₀ initial defaults)

/-- A thread constructed from the process defaults next to the initial thread. -/
theorem stacks_disjoint_from_defaults :
    ∃ trs s, Run WorldStep (World.init 0 (mainThread : OsThread Unit) plainDefaults) trs s ∧
      (∃ th, s.threads 1 = some th ∧ th.pc.live = true) ∧ ∀ tr ∈ trs, StacksDisjoint tr.post := by
  have hrun := Run.single (step_first_plain () "worker" none false none (stackChosen_first none))
  refine ⟨_, _, hrun, ⟨_, rfl, rfl⟩, (stacks_disjoint_iff hrun).mpr fun tr htr => ?_⟩
  rw [List.mem_singleton.mp htr]
  rfl

/-- `Thread("worker", log, cfg, func)` from the initial thread, where `cfg` is a `Config { true }` with nothing
else set: both threads run on one stack. -/
theorem inherited_stack_shared :
    ∃ trs s, Run WorldStep (World.init 0 (mainThread : OsThread Unit) plainDefaults) trs s ∧
      (∃ creator o name log tid, ∃ tr ∈ trs, tr.act = .construct creator o name log {} tid) ∧
      ¬ StacksDisjoint s := by
  have hstack : StackChosen (World.init 0 (mainThread : OsThread Unit) plainDefaults)
      (plainAttr (mainThread : OsThread Unit).getattr plainDefaults.toPthreadAttr true none)
      ⟨1000, 100⟩ := rfl
  have hstep := step_first_plain () "worker" none true none hstack
  refine ⟨_, _, .single hstep, ⟨0, (), "worker", none, 1, _, List.mem_singleton_self _, rfl⟩, ?_⟩
  intro hdis
  have hpair := hdis 0 1 _ _ rfl rfl rfl rfl (by decide)
  exact Region.not_disjoint_of_top rfl hpair

end AxzlCore

import AxzlCore.Thread.World

/-!
# The hand-off from the constructor to the new thread

The context of a new thread holds a raw pointer to the object it was constructed in, and the thread reads
that object until the end of `PostThreadEntryInit`.  `Thread` objects may be moved, detached and destroyed
before that, and the pointer does not follow.

* `HandedOff` — what the hand-off promises of a state: a thread that is still to read its object finds it
  alive, and the name and nice value applied so far are those given at construction.
* `HandOffRespected` — the object of a thread that is still starting is neither moved from, nor, unless the
  thread is joined first, assigned over or destroyed.
* `startup_handed_off` — then the promise holds in every state of the run.
-/

set_option autoImplicit false

namespace AxzlCore

open Errno Function Runs

variable {O : Type} [DecidableEq O]

/-- Thread `t` was constructed in object `o` and is still to read it. -/
def World.Starting (s : World O) (o : O) (t : Tid) : Prop :=
  ∃ th birth, s.threads t = some th ∧ th.birth = some birth ∧ birth.this = o ∧
    th.pc.usesThis = true

/-- What the hand-off promises of thread `th` with the data `birth`. -/
structure StartupOk (s : World O) (th : OsThread O) (birth : Birth O) : Prop where
  /-- The object a step of `ThreadEntry` uses is alive. -/
  alive : th.pc.usesThis = true → ∃ obj, s.objs birth.this = .live obj
  /-- A name applied is the one given. -/
  name : ∀ n, th.appliedName = some n → n = Thread.osName birth.name
  /-- A nice value applied is the one given, for a thread that is not real-time. -/
  nice : ∀ p, th.appliedNice = some p →
    ∃ sched, birth.sched = some sched ∧ sched.isRt = false ∧ p = sched.prio
  /-- In the callable both have been applied. -/
  complete : th.pc = .body ∨ th.pc = .done →
    th.appliedName = some (Thread.osName birth.name) ∧
      ∀ sched, birth.sched = some sched → sched.isRt = false → th.appliedNice = some sched.prio
  /-- No dead object was used. -/
  defined : th.pc ≠ .undefined

/-- The hand-off has kept its promise to every thread constructed so far. -/
def HandedOff (s : World O) : Prop :=
  ∀ t th birth, s.threads t = some th → th.birth = some birth → StartupOk s th birth

/-- `Join` on the object joins its thread: it is asked to, and `pthread_join` does not fail. -/
def Thread.Joins (obj : Thread) (rc : Rc) : Prop := obj.mJoin = true ∧ rc = 0

/-- The owner leaves the object of a starting thread alone, as far as it is not made to wait.  A failing
`pthread_join` makes nobody wait. -/
def HandOffRespected (s : World O) : ThreadAction O → Prop
  | .moveConstruct _ src => ∀ t, ¬ s.Starting src t
  | .moveAssign dst src rc => dst ≠ src → (∀ t, ¬ s.Starting src t) ∧
      ∀ obj, s.objs dst = .live obj → ¬ obj.Joins rc → ∀ t, ¬ s.Starting dst t
  | .destroy o rc => ∀ obj, s.objs o = .live obj → ¬ obj.Joins rc → ∀ t, ¬ s.Starting o t
  | _ => True

/-! ## The invariant -/

/-- Where a thread is in `ThreadEntry` agrees with what was applied to it. -/
structure EntryOk (th : OsThread O) (birth : Birth O) : Prop where
  name : ∀ n, th.appliedName = some n → n = Thread.osName birth.name
  nice : ∀ p, th.appliedNice = some p →
    ∃ sched, birth.sched = some sched ∧ sched.isRt = false ∧ p = sched.prio
  niceDone : th.pc = .setName ∨ th.pc = .body ∨ th.pc = .done →
    ∀ sched, birth.sched = some sched → sched.isRt = false → th.appliedNice = some sched.prio
  nameDone : th.pc = .body ∨ th.pc = .done → th.appliedName = some (Thread.osName birth.name)
  niceDue : th.pc = .setNice → ∃ sched, birth.sched = some sched ∧ sched.isRt = false
  defined : th.pc ≠ .undefined

/-- The object of thread `t` is as it was constructed, but for being detached. -/
structure AsConstructed (t : Tid) (birth : Birth O) (obj : Thread) : Prop where
  name : obj.mName = birth.name
  sched : obj.mSched = birth.sched
  owns : obj.mJoin = true → obj.mTid = t

/-- The invariant: every thread is where it should be in `ThreadEntry`, and finds its object as it was. -/
structure StartupInv (s : World O) : Prop where
  entry : ∀ t th birth, s.threads t = some th → th.birth = some birth → EntryOk th birth
  this : ∀ t th birth, s.threads t = some th → th.birth = some birth → th.pc.usesThis = true →
    ∃ obj, s.objs birth.this = .live obj ∧ AsConstructed t birth obj

omit [DecidableEq O] in
theorem EntryOk.congr {th th' : OsThread O} {birth : Birth O} (h : EntryOk th birth)
    (hsame : SameEntry th th') : EntryOk th' birth where
  name := by
    rw [hsame.appliedName]
    exact h.name
  nice := by
    rw [hsame.appliedNice]
    exact h.nice
  niceDone := by
    rw [hsame.pc, hsame.appliedNice]
    exact h.niceDone
  nameDone := by
    rw [hsame.pc, hsame.appliedName]
    exact h.nameDone
  niceDue := by
    rw [hsame.pc]
    exact h.niceDue
  defined := by
    rw [hsame.pc]
    exact h.defined

omit [DecidableEq O] in
/-- A new thread has had nothing applied. -/
theorem entryOk_pthreadCreate (creator : OsThread O) (attr : PthreadAttr) (stack : Region)
    (birth : Birth O) : EntryOk (pthreadCreate creator attr stack birth) birth where
  name := by simp [pthreadCreate]
  nice := by simp [pthreadCreate]
  niceDone := by simp [pthreadCreate]
  nameDone := by simp [pthreadCreate]
  niceDue := by simp [pthreadCreate]
  defined := by simp [pthreadCreate]

omit [DecidableEq O] in
/-- **One step of `ThreadEntry`.**  As long as the thread finds its object as it was constructed, it applies
what it was given. -/
theorem entryOk_step {th : OsThread O} {birth : Birth O} {slot : ObjSlot} {t : Tid}
    (h : EntryOk th birth)
    (hthis : th.pc.usesThis = true → ∃ obj, slot = .live obj ∧ AsConstructed t birth obj) (rc : Rc) :
    EntryOk (slot.entryStep rc th) birth := by
  cases hpc : th.pc with
  | start =>
      obtain ⟨obj, rfl, hobj⟩ := hthis (by rw [hpc]; rfl)
      show EntryOk (th.entryStep obj rc) birth
      unfold OsThread.entryStep
      rw [hpc]
      cases hsched : obj.mSched with
      | none =>
          refine ⟨h.name, h.nice, fun _ sched hgiven => ?_, by simp, by simp, by simp⟩
          rw [← hobj.sched, hsched] at hgiven
          cases hgiven
      | some sched =>
          cases hrt : sched.isRt with
          | true =>
              simp only [hrt, if_true]
              refine ⟨h.name, h.nice, fun _ sched' hgiven hnot => ?_, by simp, by simp, by simp⟩
              rw [← hobj.sched, hsched] at hgiven
              cases hgiven
              rw [hrt] at hnot
              cases hnot
          | false =>
              simp only [hrt, Bool.false_eq_true, if_false]
              exact ⟨h.name, h.nice, by simp, by simp,
                fun _ => ⟨sched, hobj.sched ▸ hsched, hrt⟩, by simp⟩
  | setNice =>
      obtain ⟨obj, rfl, hobj⟩ := hthis (by rw [hpc]; rfl)
      -- the test of `mSched` has already said that there is a nice value to set
      obtain ⟨sched, hgiven, hrt⟩ := h.niceDue hpc
      show EntryOk (th.entryStep obj rc) birth
      unfold OsThread.entryStep
      rw [hpc, hobj.sched, hgiven]
      by_cases hrc : rc = 0
      · simp only [hrc, if_true]
        refine ⟨h.name, fun p hp => ⟨sched, hgiven, hrt, (Option.some.inj hp).symm⟩,
          fun _ sched' hgiven' _ => ?_, by simp, by simp, by simp⟩
        rw [hgiven] at hgiven'
        cases hgiven'
        rfl
      · simp only [hrc, if_false]
        exact ⟨h.name, h.nice, by simp, by simp, by simp, by simp⟩
  | niceFailed =>
      obtain ⟨obj, rfl, hobj⟩ := hthis (by rw [hpc]; rfl)
      show EntryOk (th.entryStep obj rc) birth
      unfold OsThread.entryStep
      rw [hpc]
      exact ⟨h.name, h.nice, by simp, by simp, by simp, by simp⟩
  | setName =>
      obtain ⟨obj, rfl, hobj⟩ := hthis (by rw [hpc]; rfl)
      show EntryOk (th.entryStep obj rc) birth
      unfold OsThread.entryStep
      rw [hpc, hobj.name]
      exact ⟨fun n hn => (Option.some.inj hn).symm, h.nice, fun _ => h.niceDone (.inl hpc),
        fun _ => rfl, by simp, by simp⟩
  | body =>
      -- the callable needs no object
      have hdone : slot.entryStep rc th = { th with pc := .done } := by
        cases slot with
        | live obj => simp [ObjSlot.entryStep, OsThread.entryStep, hpc]
        | unborn | dead => simp [ObjSlot.entryStep, OsThread.danglingStep, hpc, EntryPc.usesThis]
      rw [hdone]
      exact ⟨h.name, h.nice, fun _ => h.niceDone (.inr (.inl hpc)),
        fun _ => h.nameDone (.inl hpc), by simp, by simp⟩
  | done | terminated =>
      have hsame : slot.entryStep rc th = th := by
        cases slot with
        | live obj => simp [ObjSlot.entryStep, OsThread.entryStep, hpc]
        | unborn | dead => simp [ObjSlot.entryStep, OsThread.danglingStep, hpc, EntryPc.usesThis]
      rw [hsame]
      exact h
  | undefined => exact absurd hpc h.defined

/-! ## The object of a starting thread -/

omit [DecidableEq O] in
/-- The thread of an object cannot be joined as long as it is starting. -/
theorem not_joins_of_starting {s : World O} {t : Tid} {th : OsThread O} {birth : Birth O} {obj : Thread}
    {rc : Rc} (hth : s.threads t = some th) (huses : th.pc.usesThis = true)
    (hobj : AsConstructed t birth obj) (hready : rc = 0 → JoinReady s obj) : ¬ obj.Joins rc := by
  rintro ⟨hjoin, hrc⟩
  obtain ⟨th', hth', hdone⟩ := hready hrc hjoin
  rw [hobj.owns hjoin, hth] at hth'
  cases hth'
  rw [hdone] at huses
  cases huses

/-- **The object stays as it was constructed** under every step that respects the hand-off. -/
theorem asConstructed_step {s s' : World O} {a : ThreadAction O} (hstep : WorldStep s a s')
    (hok : HandOffRespected s a) {t : Tid} {th : OsThread O} {birth : Birth O} {obj : Thread}
    (hth : s.threads t = some th) (hbirth : th.birth = some birth)
    (huses : th.pc.usesThis = true) (hobj : s.objs birth.this = .live obj)
    (hinv : AsConstructed t birth obj) :
    ∃ obj', s'.objs birth.this = .live obj' ∧ AsConstructed t birth obj' := by
  have hstarting : s.Starting birth.this t := ⟨th, birth, hth, hbirth, rfl, huses⟩
  have hreleased : AsConstructed t birth obj.released :=
    ⟨hinv.name, hinv.sched, fun hjoin => by cases hjoin⟩
  cases hstep with
  | @construct creator tid o name log cfg os rcCreate self obj' attr stack _ _ hslot _ _ _ =>
      have hne : birth.this ≠ o := by
        rintro rfl
        rw [hobj] at hslot
        cases hslot
      exact ⟨obj, (update_of_ne hne _ _).trans hobj, hinv⟩
  | @moveConstruct dst src obj' hdst hsrc =>
      have hsrc' : birth.this ≠ src := by
        rintro rfl
        exact hok t hstarting
      have hdst' : birth.this ≠ dst := by
        rintro rfl
        rw [hobj] at hdst
        cases hdst
      refine ⟨obj, ?_, hinv⟩
      show update (update s.objs src _) dst _ birth.this = .live obj
      rw [update_of_ne hdst', update_of_ne hsrc', hobj]
  | moveAssignSelf hobj' => exact ⟨obj, hobj, hinv⟩
  | @moveAssign dst src rc old obj' hne hdst hsrc hready =>
      obtain ⟨hnosrc, hnodst⟩ := hok hne
      have hsrc' : birth.this ≠ src := by
        rintro rfl
        exact hnosrc t hstarting
      have hdst' : birth.this ≠ dst := by
        rintro rfl
        rw [hobj] at hdst
        cases hdst
        -- joining the target would have waited for the thread
        exact hnodst obj hobj (not_joins_of_starting hth huses hinv hready) t hstarting
      refine ⟨obj, ?_, hinv⟩
      show update (update s.objs src _) dst _ birth.this = .live obj
      rw [update_of_ne hdst', update_of_ne hsrc', hobj]
  | @join o _ obj' hobj' _ | @detach o obj' hobj' =>
      by_cases ho : birth.this = o
      · subst ho
        rw [hobj] at hobj'
        cases hobj'
        exact ⟨obj.released, update_self _ _ _, hreleased⟩
      · exact ⟨obj, (update_of_ne ho _ _).trans hobj, hinv⟩
  | @destroy o rc obj' hobj' hready =>
      have ho : birth.this ≠ o := by
        rintro rfl
        rw [hobj] at hobj'
        cases hobj'
        exact hok obj hobj (not_joins_of_starting hth huses hinv hready) t hstarting
      exact ⟨obj, (update_of_ne ho _ _).trans hobj, hinv⟩
  | entry | retune | setDefaults => exact ⟨obj, hobj, hinv⟩

/-! ## Steps and runs -/

omit [DecidableEq O] in
/-- A thread that is to read its object after a step of its own was to read it before. -/
theorem usesThis_before {slot : ObjSlot} {rc : Rc} {th : OsThread O}
    (h : (slot.entryStep rc th).pc.usesThis = true) : th.pc.usesThis = true := by
  cases hpc : th.pc with
  | start | setNice | niceFailed | setName => rfl
  | body | done | terminated | undefined =>
      cases slot with
      | live obj => simp [ObjSlot.entryStep, OsThread.entryStep, hpc, EntryPc.usesThis] at h
      | unborn | dead => simp [ObjSlot.entryStep, OsThread.danglingStep, hpc, EntryPc.usesThis] at h

theorem startupInv_step {s s' : World O} {a : ThreadAction O} (hinv : StartupInv s)
    (hok : HandOffRespected s a) (hstep : WorldStep s a s') : StartupInv s' := by
  -- every thread afterwards is new, has taken a step of its own, or is where it was
  have hcases : ∀ t th' birth, s'.threads t = some th' → th'.birth = some birth →
      EntryOk th' birth ∧ (th'.pc.usesThis = true →
        ∃ obj, s'.objs birth.this = .live obj ∧ AsConstructed t birth obj) := by
    intro t th' birth hth' hbirth'
    by_cases hconstruct : ∃ creator o name log cfg, a = .construct creator o name log cfg t
    · obtain ⟨creator, o, name, log, cfg, rfl⟩ := hconstruct
      cases hstep with
      | @construct _ _ _ _ _ _ os rcCreate self obj attr stack hcreator hrunning hslot hnew hbuild
          hstack =>
          change update s.threads t _ t = some th' at hth'
          rw [update_self] at hth'
          cases hth'
          cases hbirth'
          obtain ⟨rfl, -, -⟩ := Thread.construct_ok hbuild
          exact ⟨entryOk_pthreadCreate _ _ _ _,
            fun _ => ⟨_, update_self _ _ _, ⟨rfl, rfl, fun _ => rfl⟩⟩⟩
    · by_cases hentry : ∃ rc, a = .entry t rc
      · obtain ⟨rc, rfl⟩ := hentry
        cases hstep with
        | @entry _ _ th birth₀ hthread hbirth =>
            change update s.threads t _ t = some th' at hth'
            rw [update_self] at hth'
            cases hth'
            rw [(sameThread_entryStep (s.objs birth₀.this) rc th).birth, hbirth] at hbirth'
            cases hbirth'
            have hthis := hinv.this t th birth hthread hbirth
            exact ⟨entryOk_step (hinv.entry t th birth hthread hbirth) hthis rc,
              fun huses => hthis (usesThis_before huses)⟩
      · obtain ⟨th, hth, hsame⟩ := entry_frame hstep hth'
          (fun rc hact => hentry ⟨rc, hact⟩)
          (fun creator o name log cfg hact => hconstruct ⟨creator, o, name, log, cfg, hact⟩)
        have hbirth : th.birth = some birth := hsame.birth.symm.trans hbirth'
        refine ⟨(hinv.entry t th birth hth hbirth).congr hsame, fun huses => ?_⟩
        rw [hsame.pc] at huses
        obtain ⟨obj, hobj, hasis⟩ := hinv.this t th birth hth hbirth huses
        exact asConstructed_step hstep hok hth hbirth huses hobj hasis
  exact ⟨fun t th' birth hth' hbirth' => (hcases t th' birth hth' hbirth').1,
    fun t th' birth hth' hbirth' => (hcases t th' birth hth' hbirth').2⟩

omit [DecidableEq O] in
theorem startupInv_init (tid₀ : Tid) (initial : OsThread O) (defaults : DefaultAttr) :
    StartupInv (World.init tid₀ initial defaults) := by
  have hnobirth : ∀ t th birth, (World.init tid₀ initial defaults).threads t = some th →
      th.birth ≠ some birth := by
    intro t th birth hth
    change update (fun _ => none) tid₀ _ t = some th at hth
    rw [update_apply] at hth
    split at hth
    · cases hth
      simp
    · cases hth
  exact ⟨fun t th birth hth hbirth => absurd hbirth (hnobirth t th birth hth),
    fun t th birth hth hbirth _ => absurd hbirth (hnobirth t th birth hth)⟩

omit [DecidableEq O] in
/-- The invariant is stronger than the promise. -/
theorem StartupInv.handedOff {s : World O} (hinv : StartupInv s) : HandedOff s := by
  intro t th birth hth hbirth
  have hentry := hinv.entry t th birth hth hbirth
  refine ⟨fun huses => ?_, hentry.name, hentry.nice, fun hpc => ⟨hentry.nameDone hpc, ?_⟩,
    hentry.defined⟩
  · obtain ⟨obj, hobj, -⟩ := hinv.this t th birth hth hbirth huses
    exact ⟨obj, hobj⟩
  · exact hentry.niceDone (.inr hpc)

/-- **The hand-off works as long as the owner waits.**  In a run in which no object of a thread that is still
starting is moved from, and none is assigned over or destroyed unless the thread is joined there, every state
before and after every step keeps the promise of the hand-off, whatever the interleaving and whichever other
calls of `pthread_join` fail. -/
theorem startup_handed_off {tid₀ : Tid} {initial : OsThread O} {defaults : DefaultAttr}
    {trs : List (Transition (World O) (ThreadAction O))} {s : World O}
    (hrun : Run WorldStep (World.init tid₀ initial defaults) trs s)
    (hok : ∀ tr ∈ trs, HandOffRespected tr.pre tr.act) :
    HandedOff s ∧ ∀ tr ∈ trs, HandedOff tr.pre ∧ HandedOff tr.post := by
  have hall := hrun.guarded_invariant HandOffRespected
    (fun _ _ _ hinv hrespect hstep => startupInv_step hinv hrespect hstep) hok
    (startupInv_init tid₀ initial defaults)
  exact ⟨hall.1.handedOff, fun tr htr =>
    ⟨(hall.2 tr htr).1.handedOff, (hall.2 tr htr).2.handedOff⟩⟩

/-! ## A thread that starts late -/

/-- The owner waits until the new thread has its name, and destroys the object when it can be joined. -/
theorem startup_handed_off_named :
    ∃ trs s, Run WorldStep (World.init 0 (mainThread : OsThread Unit) plainDefaults) trs s ∧
      (∃ th, s.threads 1 = some th ∧ th.appliedName = some (Thread.osName "worker")) ∧
      s.objs () = .dead ∧ HandedOff s ∧ ∀ tr ∈ trs, HandedOff tr.pre ∧ HandedOff tr.post := by
  have hrun := Run.cons
    (step_first_plain () "worker" none false (some false) (stackChosen_first (some false)))
    (.cons (step_entry_plain rfl rfl)
    (.cons (step_entry_plain rfl rfl)
    (.cons (step_entry_plain rfl rfl)
    (.single (@WorldStep.destroy Unit _ _ () 0 _ rfl fun _ _ => ⟨_, rfl, rfl⟩)))))
  refine ⟨_, _, hrun, ⟨_, rfl, rfl⟩, rfl, startup_handed_off hrun ?_⟩
  have hjoins : (plainThread "worker" none (some false) 1).Joins 0 := ⟨rfl, rfl⟩
  simp only [List.forall_mem_cons]
  refine ⟨trivial, trivial, trivial, trivial, fun obj hobj hnot => ?_, by simp⟩
  cases hobj
  exact absurd hjoins hnot

/-- A detached thread is constructed and its object destroyed, as the owner may do at once: the first step
of the new thread uses a dead object. -/
theorem startup_uses_dead_object :
    ∃ trs s, Run WorldStep (World.init 0 (mainThread : OsThread Unit) plainDefaults) trs s ∧
      s.objs () = .dead ∧ (∃ th, s.threads 1 = some th ∧ th.pc = .undefined) ∧
      ¬ (HandedOff s ∧ ∀ tr ∈ trs, HandedOff tr.pre ∧ HandedOff tr.post) := by
  have hfree : (0 : Rc) = 0 → JoinReady ((World.init 0 (mainThread : OsThread Unit) plainDefaults).plainBorn
      mainThread () "worker" none false (some true) 1 ⟨2000, 100⟩)
      (plainThread "worker" none (some true) 1) := by
    intro _ hjoin
    cases hjoin
  have hrun := Run.cons
    (step_first_plain () "worker" none false (some true) (stackChosen_first (some true)))
    (.cons (.destroy (o := ()) rfl hfree) (.single (step_entry_plain rfl rfl)))
  refine ⟨_, _, hrun, rfl, ⟨_, rfl, rfl⟩, fun hpromise => ?_⟩
  exact (hpromise.1 1 _ _ rfl rfl).defined rfl

end AxzlCore

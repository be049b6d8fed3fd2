import AxzlCore.Thread.Operations

/-!
# Whose priority `UpdatePriority` changes

`UpdatePriority` asks for the policy of the thread of its object.  A real-time priority it then sets by the
id of that thread; a nice value it sets with `setpriority(PRIO_PROCESS, 0, ...)`, which is about the thread
that makes the call.

* `changesOwnThread_of_fails`, `changesOwnThread_of_rt` — a call that throws has changed nothing, and a
  real-time priority goes where it should.
* `changesOwnThread_nice_iff` — a nice value goes where it should when the thread of the object is the
  caller, and the value is one the kernel keeps.
* `changes_own_thread_iff` — the exact condition over all callers, objects and values.
-/

set_option autoImplicit false

namespace AxzlCore

open Errno Function

variable {O : Type}

/-- `UpdatePriority(prio)` ended with `out`, and changed the thread of its object and nothing else; after an
exception nothing has changed. -/
structure ChangesOwnThread (prio : Int) (s : ThreadState O)
    (out : EStateM.Result SystemError (ThreadState O) Unit) : Prop where
  /-- A real-time thread has the priority, any other one the nice value. -/
  set : ∀ u s', out = .ok u s' → ∃ th th', s.threads s.obj.mTid = some th ∧
    s'.threads s.obj.mTid = some th' ∧
      if th.isRt then th'.tuning.priority = prio else th'.tuning.nice = prio
  /-- The parameters of every other thread are what they were. -/
  frame : ∀ u s', out = .ok u s' → ∀ t ≠ s.obj.mTid, s'.threads t = s.threads t
  thrown : ∀ e s', out = .error e s' → s'.threads = s.threads ∧ s'.obj = s.obj

/-- Whether the call is one that ends up at the thread of the object: a call that fails, a real-time
thread, a caller that sets a nice value the kernel keeps for itself, or two threads that have their nice
values already. -/
def ReachesOwnThread (os : PriorityResults) (caller : Tid) (prio : Int) (obj : Thread)
    (th c : OsThread O) : Prop :=
  os.Fails (some th) ∨ th.isRt = true ∨ (caller = obj.mTid ∧ clampNice prio = prio) ∨
    (th.tuning.nice = prio ∧ c.tuning.nice = clampNice prio)

section Call

variable {os : PriorityResults} {caller : Tid} {prio : Int} {s : ThreadState O} {th c : OsThread O}

/-- Changing a thread of the table. -/
theorem changed_self {threads : Tid → Option (OsThread O)} {tid : Tid} {th : OsThread O}
    (hth : threads tid = some th) (f : OsThread O → OsThread O) : changed threads tid f tid = some (f th) := by
  rw [changed, update_self, hth]
  rfl

theorem changed_of_ne {threads : Tid → Option (OsThread O)} {tid t : Tid} (hne : t ≠ tid)
    (f : OsThread O → OsThread O) : changed threads tid f t = threads t :=
  update_of_ne hne _ _

/-- Setting the nice value a thread has leaves it alone, and only that does. -/
theorem setNice_eq_self {nice : Int} {th : OsThread O} :
    th.setNice nice = th ↔ th.tuning.nice = clampNice nice := by
  constructor
  · intro h
    rw [← h]
    rfl
  · intro h
    unfold OsThread.setNice
    rw [← h]

/-- A call that throws has changed nothing. -/
theorem changesOwnThread_of_fails (hth : s.threads s.obj.mTid = some th) (hfails : os.Fails (some th)) :
    ChangesOwnThread prio s (Thread.updatePriority os caller prio s) := by
  rcases Thread.updatePriority_cases os caller prio s with
    ⟨th', s₁, hth', hnot, -, -⟩ | ⟨-, e, s₁, hout, -, hrefused⟩
  · rw [hth] at hth'
    cases hth'
    exact absurd hfails hnot
  · rw [hout]
    refine ⟨?_, ?_, ?_⟩
    · intro u s' h
      cases h
    · intro u s' h
      cases h
    · intro e' s' h
      cases h
      exact ⟨hrefused.threads, hrefused.obj⟩

/-- A completed call, by what it did. -/
theorem changesOwnThread_of_done {s₁ : ThreadState O} {u : Unit}
    (hout : Thread.updatePriority os caller prio s = .ok u s₁) (hth : s.threads s.obj.mTid = some th) :
    ChangesOwnThread prio s (Thread.updatePriority os caller prio s) ↔
      (∃ th', s₁.threads s.obj.mTid = some th' ∧
        if th.isRt then th'.tuning.priority = prio else th'.tuning.nice = prio) ∧
      ∀ t ≠ s.obj.mTid, s₁.threads t = s.threads t := by
  rw [hout]
  constructor
  · intro hchanges
    obtain ⟨th₀, th', hth₀, hth', hset⟩ := hchanges.set u s₁ rfl
    rw [hth] at hth₀
    cases hth₀
    exact ⟨⟨th', hth', hset⟩, hchanges.frame u s₁ rfl⟩
  · rintro ⟨⟨th', hth', hset⟩, hframe⟩
    refine ⟨?_, ?_, ?_⟩
    · intro u' s' h
      cases h
      exact ⟨th, th', hth, hth', hset⟩
    · intro u' s' h
      cases h
      exact hframe
    · intro e s' h
      cases h

/-- A real-time priority goes to the thread of the object. -/
theorem changesOwnThread_of_rt (hth : s.threads s.obj.mTid = some th) (hrt : th.isRt = true) :
    ChangesOwnThread prio s (Thread.updatePriority os caller prio s) := by
  by_cases hfails : os.Fails (some th)
  · exact changesOwnThread_of_fails hth hfails
  · rcases Thread.updatePriority_cases os caller prio s with
      ⟨th', s₁, hth', -, hout, hdone⟩ | ⟨hfails', -⟩
    · rw [hth] at hth'
      cases hth'
      rw [changesOwnThread_of_done hout hth, hdone.threads, if_pos hrt]
      simp only [if_pos hrt]
      exact ⟨⟨_, changed_self hth _, rfl⟩, fun t hne => changed_of_ne hne _⟩
    · rw [hth] at hfails'
      exact absurd hfails' hfails

/-- A nice value goes to the caller. -/
theorem changesOwnThread_nice_iff (hth : s.threads s.obj.mTid = some th)
    (hcaller : s.threads caller = some c) (hfails : ¬ os.Fails (some th)) (hrt : th.isRt = false) :
    ChangesOwnThread prio s (Thread.updatePriority os caller prio s) ↔
      (caller = s.obj.mTid ∧ clampNice prio = prio) ∨
        (th.tuning.nice = prio ∧ c.tuning.nice = clampNice prio) := by
  have hrt' : ¬ th.isRt = true := by simp [hrt]
  rcases Thread.updatePriority_cases os caller prio s with
    ⟨th', s₁, hth', -, hout, hdone⟩ | ⟨hfails', -⟩
  · rw [hth] at hth'
    cases hth'
    rw [changesOwnThread_of_done hout hth, hdone.threads, if_neg hrt']
    simp only [if_neg hrt']
    by_cases heq : caller = s.obj.mTid
    · subst heq
      rw [hth] at hcaller
      cases hcaller
      constructor
      · rintro ⟨⟨th', hth', hnice⟩, -⟩
        rw [changed_self hth] at hth'
        cases hth'
        exact .inl ⟨rfl, hnice⟩
      · intro hcond
        have hclamp : clampNice prio = prio := by
          rcases hcond with ⟨-, hclamp⟩ | ⟨hnice, hnice'⟩
          · exact hclamp
          · exact hnice'.symm.trans hnice
        exact ⟨⟨_, changed_self hth _, hclamp⟩, fun t hne => changed_of_ne hne _⟩
    · -- another thread calls: both threads must have their values already
      have hsame : changed s.threads caller (OsThread.setNice prio) s.obj.mTid = some th :=
        (changed_of_ne (Ne.symm heq) _).trans hth
      constructor
      · rintro ⟨⟨th', hth', hnice⟩, hframe⟩
        rw [hsame] at hth'
        cases hth'
        have hleft := hframe caller heq
        rw [changed_self hcaller, hcaller] at hleft
        exact .inr ⟨hnice, setNice_eq_self.mp (Option.some.inj hleft)⟩
      · rintro (⟨heq', -⟩ | ⟨hnice, hnice'⟩)
        · exact absurd heq' heq
        · refine ⟨⟨th, hsame, hnice⟩, fun t hne => ?_⟩
          by_cases ht : t = caller
          · subst ht
            rw [changed_self hcaller, hcaller, setNice_eq_self.mpr hnice']
          · exact changed_of_ne ht _
  · rw [hth] at hfails'
    exact absurd hfails' hfails

/-- **Exactly when `UpdatePriority` changes its own thread and nothing else**, for every caller, every thread
of an object, every value and every outcome of the OS calls. -/
theorem changes_own_thread_iff (hth : s.threads s.obj.mTid = some th)
    (hcaller : s.threads caller = some c) :
    ChangesOwnThread prio s (Thread.updatePriority os caller prio s) ↔
      ReachesOwnThread os caller prio s.obj th c := by
  unfold ReachesOwnThread
  by_cases hfails : os.Fails (some th)
  · exact iff_of_true (changesOwnThread_of_fails hth hfails) (.inl hfails)
  · cases hrt : th.isRt with
    | true => exact iff_of_true (changesOwnThread_of_rt hth hrt) (.inr (.inl rfl))
    | false =>
        rw [changesOwnThread_nice_iff hth hcaller hfails hrt]
        simp [hfails]

end Call

/-! ## Two calls on the same object -/

/-- An object that owns the thread 1, while the threads 0 and 1 are running. -/
def workerState : ThreadState Unit where
  obj := plainThread "worker" none none 1
  threads := fun t => if t < 2 then some mainThread else none
  uses := []
  logged := []

theorem workerState_self : workerState.threads workerState.obj.mTid = some mainThread := rfl

/-- The worker sets its own nice value. -/
theorem changes_own_thread_from_itself :
    ChangesOwnThread 5 workerState (Thread.updatePriority ⟨0, 0, .done⟩ 1 5 workerState) :=
  (changes_own_thread_iff workerState_self workerState_self).mpr (.inr (.inr (.inl ⟨rfl, by decide⟩)))

/-- The initial thread is given the nice value meant for the worker. -/
theorem nice_value_set_on_caller :
    ∃ s', Thread.updatePriority ⟨0, 0, .done⟩ 0 5 workerState = .ok () s' ∧
      (s'.threads 0).map (fun th => th.tuning.nice) = some 5 ∧
      (s'.threads 1).map (fun th => th.tuning.nice) = some 0 ∧
      ¬ ChangesOwnThread 5 workerState (Thread.updatePriority ⟨0, 0, .done⟩ 0 5 workerState) := by
  refine ⟨_, rfl, by decide, by decide, fun hchanges => ?_⟩
  have hframe := hchanges.frame () _ rfl 0 (by decide)
  have hnice := congrArg (Option.map fun th => th.tuning.nice) hframe
  exact absurd hnice (by decide)

end AxzlCore

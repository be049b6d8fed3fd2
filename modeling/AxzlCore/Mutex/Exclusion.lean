import AxzlCore.Library.ReentrantLock
import AxzlCore.Library.SilentHolds
import AxzlCore.Mutex.Recoverability

/-!
# Mutual exclusion, and what a silent acquisition does to it

The reports the class makes are enough for its clients to exclude each other, and a level nobody was told
about is enough to starve them.

* `reports_exclude` — in every run in which each `Unlock` answers a report, whatever the type of the mutex,
  the handles, the deaths and the outcomes of `pthread_mutex_consistent`, the reports are a reentrant lock:
  two threads never believe together that they hold the mutex, and who believes it is alive and owns it.
* `silent_acquisition_starves` — a call that inherits the abandoned mutex and does not report it (`TryLock`
  never does, nor does a timed call, nor a `Lock` that throws) shuts everybody else out: while its caller
  lives, no call of another thread is ever reported to acquire the mutex again.
-/

set_option autoImplicit false

namespace AxzlCore

open Errno Function Outcomes RobustMutex Runs

variable {T H : Type} [DecidableEq T] {attr : Attr} {handle : H → Mutex}

/-! ## The reports are a lock -/

/-- Disciplined runs keep the reports backed, in every state they visit. -/
theorem run_backed {trs : List (Transition (Sys T) (Action T H))} {s₀ s : Sys T}
    (hrun : Run (SysStep attr handle) s₀ trs s) (hdisc : ∀ tr ∈ trs, UnlocksReported tr.pre tr.act)
    (h₀ : Backed s₀.toSession) :
    Backed s.toSession ∧ ∀ tr ∈ trs, Backed tr.pre.toSession ∧ Backed tr.post.toSession :=
  hrun.guarded_invariant UnlocksReported
    (fun _ _ _ hbacked hok hstep => backed_step hbacked (session_step hok hstep)) hdisc h₀

/-- **Simulation.**  A step that answers a report if it unlocks is at most one step of the reentrant lock. -/
theorem lock_step {s s' : Sys T} {a : Action T H} (hbacked : Backed s.toSession) (hok : UnlocksReported s a)
    (hstep : SysStep attr handle s a s') :
    Relation.ReflGen ReentrantLock.Step s.reported s'.reported :=
  reported_step hbacked (session_step hok hstep)

/-- Only live threads have reports outstanding. -/
def ReportsAlive (s : Sys T) : Prop := ∀ t, 0 < s.reported t → s.alive t = true

theorem reportsAlive_step {s s' : Sys T} {a : Action T H} (h : ReportsAlive s)
    (hstep : SysStep attr handle s a s') : ReportsAlive s' := by
  intro u hu
  cases hstep with
  | @call t h' c rcConsistent r m halive hcall =>
      by_cases hut : u = t
      · rw [hut]
        exact halive
      · change 0 < c.account s.reported t r u at hu
        rw [account_of_ne c s.reported r hut] at hu
        exact h u hu
  | @die t halive =>
      change 0 < update s.reported t 0 u at hu
      by_cases hut : u = t
      · rw [hut, update_self] at hu
        exact absurd hu (Nat.lt_irrefl 0)
      · rw [update_of_ne hut] at hu
        show update s.alive t false u = true
        rw [update_of_ne hut]
        exact h u hu

/-- **Mutual exclusion.**  As long as every `Unlock` answers a report, each transition of any run is at most
one step of a reentrant lock on the reports, and the run a path of it; no two threads have reports together,
and a thread that has some is alive and owns the mutex at no fewer levels. -/
theorem reports_exclude {trs : List (Transition (Sys T) (Action T H))} {s : Sys T}
    (hrun : Run (SysStep attr handle) Sys.init trs s)
    (hdisc : ∀ tr ∈ trs, UnlocksReported tr.pre tr.act) :
    (∀ tr ∈ trs, Relation.ReflGen ReentrantLock.Step tr.pre.reported tr.post.reported) ∧
      Relation.ReflTransGen ReentrantLock.Step (fun _ => 0) s.reported ∧
      (∀ t u, 0 < s.reported t → 0 < s.reported u → t = u) ∧
      ∀ t, 0 < s.reported t →
        s.alive t = true ∧ s.reported t ≤ s.mtx.holds t ∧ ∃ n c, s.mtx = .held t n c := by
  obtain ⟨hbacked, hall⟩ := run_backed hrun hdisc backed_init
  have hlock : ∀ tr ∈ trs, Relation.ReflGen ReentrantLock.Step tr.pre.reported tr.post.reported :=
    fun tr htr => lock_step (hall tr htr).1 (hdisc tr htr) (hrun.step_of_mem htr)
  have hsteps : Relation.ReflTransGen ReentrantLock.Step (fun _ => 0) s.reported :=
    hrun.simulation (fun s => Backed s.toSession) UnlocksReported
      (fun _ _ _ h hok hstep => backed_step h (session_step hok hstep))
      (fun _ _ _ h hok hstep => (lock_step h hok hstep).to_reflTransGen) hdisc backed_init
  have halive : ReportsAlive s :=
    (hrun.invariant (fun _ _ _ h hstep => reportsAlive_step h hstep) (by simp [ReportsAlive, Sys.init])).1
  refine ⟨hlock, hsteps, ReentrantLock.exclusive_of_steps ReentrantLock.exclusive_init hsteps, ?_⟩
  intro t ht
  have hle := hbacked.le_holds t
  exact ⟨halive t ht, hle, eq_held_of_holds (Nat.lt_of_lt_of_le ht hle)⟩

/-- Two threads on one robust mutex: the first dies inside, the second recovers the mutex. -/
theorem reports_exclude_after_death :
    ∃ trs s, Run (SysStep Mutex.shmBehaviour shmHandle) (Sys.init : Sys Nat) trs s ∧
      (∀ tr ∈ trs, UnlocksReported tr.pre tr.act) ∧ 0 < s.reported 1 ∧
      ∀ t, 0 < s.reported t → t = 1 := by
  have hcall : ((.ok .void, .held 1 0 true) : Except SystemError Reply × State Nat) ∈
      Call.lock.perform Mutex.shmBehaviour (shmHandle .created) 1 0 .abandoned := by decide
  have hne : 1 ≠ 0 := by decide
  have hrun := run_call_abandoned rfl shmHandle .created .created hne hcall
  have hone : 0 < Call.lock.account (Sys.abandonedBy 0).reported 1 (.ok Reply.void) 1 := by
    simp [Call.account, Call.reports, note_self]
  refine ⟨_, _, hrun, by simp [abandonTrs, UnlocksReported], hone, fun t ht => ?_⟩
  obtain ⟨-, -, hexclude, -⟩ := reports_exclude hrun (by simp [abandonTrs, UnlocksReported])
  exact hexclude t 1 ht hone

/-! ## Silent acquisitions -/

/-- The disciplined steps of a system leave an unaware thread unaware, as long as it lives. -/
theorem unaware_step {s s' : Sys T} {a : Action T H} {t : T} (hbacked : Backed s.toSession)
    (h : Unaware s.toSession t) (hdisc : UnlocksReported s a) (hlives : a ≠ .die t)
    (hstep : SysStep attr handle s a s') : Unaware s'.toSession t := by
  cases hstep with
  | die halive => exact unaware_die h fun hut => hlives (by rw [hut])
  | @call u h' c rcConsistent r m halive hcall =>
      cases c with
      | unlock =>
          obtain ⟨r₀, hmem, rfl⟩ := mem_perform_unlock.mp hcall
          obtain ⟨rc, hunlock, -⟩ := Mutex.unlock_cases hmem
          exact unaware_release hbacked h hdisc hunlock
      | lock => exact unaware_acquire h (perform_sound (by simp) hcall)
      | tryLock => exact unaware_acquire h (perform_sound (by simp) hcall)
      | tryLockFor now duration => exact unaware_acquire h (perform_sound (by simp) hcall)
      | tryLockUntil tp => exact unaware_acquire h (perform_sound (by simp) hcall)

/-- While a thread owns the mutex unaware, no other thread is told of an acquisition. -/
theorem unaware_excludes {s s' : Sys T} {t u : T} {h' : H} {c : Call} {rcConsistent : Rc}
    {r : Except SystemError Reply} (h : Unaware s.toSession t) (hne : u ≠ t)
    (hstep : SysStep attr handle s (.call u h' c rcConsistent r) s') : c.reports r = false := by
  obtain ⟨n, b, hheld, -⟩ := h.eq_held
  cases hstep with
  | call halive hcall =>
      by_cases hc : c = .unlock
      · subst hc
        rfl
      · exact (sound_of_held hheld hne (perform_sound hc hcall)).1

/-- A call that meets the mutex abandoned and stays silent leaves its caller unaware. -/
theorem unaware_of_abandoned {s s' : Sys T} (hbacked : Backed s.toSession) {t : T} {h : H} {c : Call}
    {rcConsistent : Rc} {r : Except SystemError Reply} (habandoned : s.mtx = .abandoned)
    (hc : c ≠ .unlock) (hstep : SysStep attr handle s (.call t h c rcConsistent r) s')
    (hsilent : c.reports r = false) : Unaware s'.toSession t := by
  cases hstep with
  | @call _ _ _ _ _ m halive hcall =>
      have hzero : s.mtx.holds t = 0 := by
        rw [habandoned]
        rfl
      have haccount : c.account s.reported t r = Session.note s.reported t false := by
        rw [← hsilent]
        cases c with
        | unlock => exact absurd rfl hc
        | lock | tryLock | tryLockFor _ _ | tryLockUntil _ => rfl
      rcases perform_cases hc hcall with
        ⟨-, hreports⟩ | ⟨-, -, hreports, -⟩ | ⟨-, -, -, consistent, rfl⟩ | ⟨hs, -⟩
      · rw [hsilent] at hreports
        cases hreports
      · rw [hsilent] at hreports
        cases hreports
      · have hunaware := unaware_of_silent hbacked (c := consistent) hzero
        rw [← haccount] at hunaware
        exact hunaware
      · exact absurd habandoned hs

/-- **A silent acquisition starves everybody else.**  Once a call of `t` met the abandoned mutex and did
not report it, `t` owns the mutex in every state of every disciplined continuation in which it lives, and
no call of another thread is told of an acquisition. -/
theorem silent_acquisition_starves {trs trs' : List (Transition (Sys T) (Action T H))} {s s₁ s' : Sys T}
    (hrun : Run (SysStep attr handle) Sys.init trs s)
    (hdisc : ∀ tr ∈ trs, UnlocksReported tr.pre tr.act) {t : T} {h : H} {c : Call} {rcConsistent : Rc}
    {r : Except SystemError Reply} (habandoned : s.mtx = .abandoned) (hc : c ≠ .unlock)
    (hstep : SysStep attr handle s (.call t h c rcConsistent r) s₁) (hsilent : c.reports r = false)
    (hrun' : Run (SysStep attr handle) s₁ trs' s')
    (hdisc' : ∀ tr ∈ trs', UnlocksReported tr.pre tr.act) (hlives : ∀ tr ∈ trs', tr.act ≠ .die t) :
    (∃ n b, s'.mtx = .held t n b) ∧
      ∀ tr ∈ trs', ∀ u h' c' rc r', u ≠ t → tr.act = .call u h' c' rc r' → c'.reports r' = false := by
  have hbacked : Backed s.toSession := (run_backed hrun hdisc backed_init).1
  have hbacked₁ : Backed s₁.toSession := by
    refine backed_step hbacked (session_step ?_ hstep)
    cases c with
    | unlock => exact absurd rfl hc
    | lock | tryLock | tryLockFor _ _ | tryLockUntil _ => trivial
  have hkeep : ∀ (s : Sys T) (a : Action T H) (s' : Sys T),
      Backed s.toSession ∧ Unaware s.toSession t → UnlocksReported s a ∧ a ≠ .die t →
        SysStep attr handle s a s' → Backed s'.toSession ∧ Unaware s'.toSession t :=
    fun _ _ _ hinv hok hstep =>
      ⟨backed_step hinv.1 (session_step hok.1 hstep), unaware_step hinv.1 hinv.2 hok.1 hok.2 hstep⟩
  have hinv := hrun'.guarded_invariant _ hkeep (fun tr htr => ⟨hdisc' tr htr, hlives tr htr⟩)
    ⟨hbacked₁, unaware_of_abandoned hbacked habandoned hc hstep hsilent⟩
  refine ⟨?_, fun tr htr u h' c' rc r' hne hact => ?_⟩
  · obtain ⟨n, b, hheld, -⟩ := hinv.1.2.eq_held
    exact ⟨n, b, hheld⟩
  · have hstep' := hrun'.step_of_mem htr
    rw [hact] at hstep'
    exact unaware_excludes (hinv.2 tr htr).1.2 hne hstep'

/-- After the first thread died inside, the second calls `TryLock` and is told no; the third is shut
out. -/
theorem silent_acquisition_starves_third :
    ∃ (s₁ s' : Sys Nat) (trs' : List (Transition (Sys Nat) (Action Nat Origin))),
      SysStep Mutex.shmBehaviour shmHandle (Sys.abandonedBy 0)
        (.call 1 .created .tryLock 0 (.ok (.bool false))) s₁ ∧
      Run (SysStep Mutex.shmBehaviour shmHandle) s₁ trs' s' ∧ trs'.length = 1 ∧
      ∃ n b, s'.mtx = .held 1 n b := by
  have hsilent : ((.ok (.bool false), .held 1 0 false) : Except SystemError Reply × State Nat) ∈
      Call.tryLock.perform Mutex.shmBehaviour (shmHandle .created) 1 0 .abandoned := by decide
  have hbusy : ((.ok (.bool false), .held 1 0 false) : Except SystemError Reply × State Nat) ∈
      Call.tryLock.perform Mutex.shmBehaviour (shmHandle .created) 2 0 (.held 1 0 false) := by decide
  have hstep : SysStep Mutex.shmBehaviour shmHandle (Sys.abandonedBy 0)
      (.call 1 .created .tryLock 0 (.ok (.bool false))) _ := .call rfl hsilent
  have hstep' : SysStep Mutex.shmBehaviour shmHandle
      ⟨⟨.held 1 0 false, Call.tryLock.account (Sys.abandonedBy 0).reported 1 (.ok (.bool false))⟩,
        (Sys.abandonedBy 0).alive⟩
      (.call 2 .created .tryLock 0 (.ok (.bool false))) _ := .call rfl hbusy
  have hrun' := Run.single hstep'
  refine ⟨_, _, _, hstep, hrun', rfl, ?_⟩
  exact (silent_acquisition_starves (run_abandon rfl shmHandle 0 .created)
    (by simp [abandonTrs, UnlocksReported]) rfl (by simp) hstep rfl hrun'
    (by simp [UnlocksReported]) (by simp)).1

end AxzlCore

import AxzlCore.ConditionVariable.SharedWaits
import AxzlCore.Library.SilentHolds

/-!
# Waits give back what they took

A wait operation gives one level of the mutex away while it blocks and takes it again before it ends, on
every path: after a notification, a timeout, a failure of the OS call or an exception.  What the other
threads do meanwhile does not matter.

* `balanced_step` — no step changes the share of a thread that makes no call itself: what is outstanding,
  with the level a blocked wait has given away.
* `waits_are_balanced` — over every stretch of a run in which a thread makes no call of its own and lives,
  and at whose ends it is in no wait, its reports are the same, and so are the levels it owns.
-/

set_option autoImplicit false

namespace AxzlCore

open Errno Function Outcomes RobustMutex Runs

variable {T H : Type} [DecidableEq T] {attr : Attr} {handle : H → Mutex}

/-- Whether the thread is blocked in the OS wait. -/
def Phase.blockedLevels : Phase → Nat
  | .blocked _ _ => 1
  | _ => 0

/-- The reports of a thread, with the one that a blocked wait has answered for the time being. -/
def WaitSys.committed (s : WaitSys T) (t : T) : Nat := s.reported t + (s.phase t).blockedLevels

/-- The levels of a thread, with the one that a blocked wait has given away. -/
def WaitSys.levels (s : WaitSys T) (t : T) : Nat := s.mtx.holds t + (s.phase t).blockedLevels

/-- The thread makes no call of its own in this step, and lives. -/
def LeavesAlone (t : T) : WaitAction T H → Prop
  | .call u _ _ _ _ => u ≠ t
  | .die u => u ≠ t
  | _ => True

omit [DecidableEq T] in
theorem blockedLevels_phase (p : Progress) (cv : ConditionVariable) (c : WaitCall) :
    (p.phase cv c).blockedLevels = 0 := by
  cases p <;> rfl

/-- A thread that changes its phase without blocking or waking keeps every thread's share. -/
theorem blockedLevels_update (phase : T → Phase) (u : T) (new : Phase)
    (h : new.blockedLevels = (phase u).blockedLevels) (t : T) :
    (update phase u new t).blockedLevels = (phase t).blockedLevels := by
  by_cases htu : t = u
  · rw [htu, update_self, h]
  · rw [update_of_ne htu]

/-- A completed call of another thread changes neither the reports nor the levels of `t`. -/
theorem frame_of_call {s s' : Sys T} {t u : T} {h : H} {c : Call} {rcConsistent : Rc}
    {r : Except SystemError Reply} (hbacked : Backed s.toSession) (hne : u ≠ t)
    (hdisc : UnlocksReported s (.call u h c rcConsistent r))
    (hcall : SysStep attr handle s (.call u h c rcConsistent r) s') :
    s'.reported t = s.reported t ∧ s'.mtx.holds t = s.mtx.holds t := by
  cases hcall with
  | @call _ _ _ _ _ m halive hmem =>
      refine ⟨account_of_ne c s.reported r (Ne.symm hne), ?_⟩
      by_cases hc : c = .unlock
      · subst hc
        obtain ⟨r₀, hcall, rfl⟩ := mem_perform_unlock.mp hmem
        obtain ⟨rc, hunlock, -⟩ := Mutex.unlock_cases hcall
        exact holds_of_unlock_ne hbacked hdisc hunlock hne
      · exact holds_of_sound_ne (perform_sound hc hmem) hne

/-- **One step of a wait is balanced**: whatever moves, the shares of a thread that makes no call itself
stay the same. -/
theorem balanced_step {s s' : WaitSys T} {a : WaitAction T H} {t : T} (hinv : WaitsBacked s)
    (hok : WakesSound s a) (halone : LeavesAlone t a) (hstep : WaitStep attr handle s a s') :
    s'.committed t = s.committed t ∧ s'.levels t = s.levels t := by
  unfold WaitSys.committed WaitSys.levels
  cases hstep with
  | call hphase hscoped hcall =>
      obtain ⟨hreported, hholds⟩ := frame_of_call hinv.backed halone hscoped hcall
      exact ⟨congrArg (· + _) hreported, congrArg (· + _) hholds⟩
  | @enter u cv c halive hphase hscoped =>
      have hsame := blockedLevels_update s.phase u (.holding cv c) (by rw [hphase]; rfl) t
      exact ⟨congrArg _ hsame, congrArg _ hsame⟩
  | @check u cv c pred r halive hphase hhead =>
      have hsame := blockedLevels_update s.phase u .idle (by rw [hphase]; rfl) t
      exact ⟨congrArg _ hsame, congrArg _ hsame⟩
  | @refuse u cv c pred rc halive hphase hhead hrc =>
      have hsame := blockedLevels_update s.phase u ((c.resume cv rc).phase cv c)
        (by rw [hphase, blockedLevels_phase]; rfl) t
      exact ⟨congrArg _ hsame, congrArg _ hsame⟩
  | notify halive => exact ⟨rfl, rfl⟩
  | @block u cv c pred rc m halive hphase hhead hunlock =>
      have hreported : 0 < s.reported u := hinv.holding u cv c hphase
      by_cases hut : u = t
      · subst hut
        have hholds := holds_of_unlock_self hinv.backed hreported hunlock
        show update s.reported u (s.reported u - 1) u + (update s.phase u (.blocked cv c) u).blockedLevels =
            s.reported u + _ ∧ m.holds u + (update s.phase u (.blocked cv c) u).blockedLevels = _
        rw [update_self, update_self, hphase]
        show s.reported u - 1 + 1 = s.reported u + 0 ∧ m.holds u + 1 = s.mtx.holds u + 0
        omega
      · have hholds := holds_of_unlock_ne hinv.backed hreported hunlock hut
        show update s.reported u _ t + (update s.phase u _ t).blockedLevels = _ ∧
          m.holds t + (update s.phase u _ t).blockedLevels = _
        rw [update_of_ne (Ne.symm hut), update_of_ne (Ne.symm hut), hholds]
        exact ⟨rfl, rfl⟩
  | @wake u cv c rc m halive hphase hmtx =>
      have hsound := sound_of_reacquire hmtx hok.1 hinv.backed.recoverable
      by_cases hut : u = t
      · subst hut
        have hholds : m.holds u = s.mtx.holds u + 1 := by
          rcases reacquire_cases hmtx with ⟨hs, rfl⟩ | ⟨n, b, hs, rfl⟩ | ⟨hs, -⟩ | ⟨hs, -⟩
          · rw [hs]
            simp
          · rw [hs]
            simp
          · exact absurd hs hok.1
          · exact absurd hs hinv.backed.recoverable
        show update s.reported u (s.reported u + 1) u + (update s.phase u _ u).blockedLevels =
            s.reported u + _ ∧ m.holds u + (update s.phase u _ u).blockedLevels = _
        rw [update_self, update_self, hphase, blockedLevels_phase, hholds]
        exact ⟨rfl, rfl⟩
      · show update s.reported u _ t + (update s.phase u _ t).blockedLevels = _ ∧
          m.holds t + (update s.phase u _ t).blockedLevels = _
        rw [update_of_ne (Ne.symm hut), update_of_ne (Ne.symm hut), holds_of_sound_ne hsound hut]
        exact ⟨rfl, rfl⟩
  | @die s₁ u hdie =>
      have hut : u ≠ t := halone
      cases hdie with
      | die halive =>
          show update s.reported u 0 t + (update s.phase u .idle t).blockedLevels = _ ∧
            (ownerDies attr u s.mtx).holds t + (update s.phase u .idle t).blockedLevels = _
          rw [update_of_ne hut.symm, update_of_ne hut.symm, holds_of_ownerDies_ne hut]
          exact ⟨rfl, rfl⟩

/-- **Waits give back what they took.**  Over every stretch of a run with sound wakes at whose ends a thread
is in no wait, and in which it makes no call of its own and lives, its reports and the levels it owns are
the same as before, however often it blocked and however its waits ended. -/
theorem waits_are_balanced {trs trs' : List (Transition (WaitSys T) (WaitAction T H))} {s s' : WaitSys T}
    (hrun : Run (WaitStep attr handle) WaitSys.init trs s) (hok : ∀ tr ∈ trs, WakesSound tr.pre tr.act)
    (hrun' : Run (WaitStep attr handle) s trs' s') (hok' : ∀ tr ∈ trs', WakesSound tr.pre tr.act) {t : T}
    (halone : ∀ tr ∈ trs', LeavesAlone t tr.act) (hidle : s.phase t = .idle) (hidle' : s'.phase t = .idle) :
    s'.reported t = s.reported t ∧ s'.mtx.holds t = s.mtx.holds t := by
  have hbacked : WaitsBacked s :=
    (hrun.guarded_invariant WakesSound (fun _ _ _ hinv hsound hstep => waitsBacked_step hinv hsound hstep)
      hok ⟨holdingReported_init, backed_init⟩).1
  have hkeep : ∀ (s₁ : WaitSys T) (a : WaitAction T H) (s₂ : WaitSys T),
      WaitsBacked s₁ ∧ s₁.committed t = s.committed t ∧ s₁.levels t = s.levels t →
        WakesSound s₁ a ∧ LeavesAlone t a → WaitStep attr handle s₁ a s₂ →
          WaitsBacked s₂ ∧ s₂.committed t = s.committed t ∧ s₂.levels t = s.levels t := by
    rintro s₁ a s₂ ⟨hinv, hcommitted, hlevels⟩ ⟨hsound, hquiet⟩ hstep
    obtain ⟨hcommitted', hlevels'⟩ := balanced_step hinv hsound hquiet hstep
    exact ⟨waitsBacked_step hinv hsound hstep, hcommitted'.trans hcommitted, hlevels'.trans hlevels⟩
  obtain ⟨-, hcommitted, hlevels⟩ :=
    (hrun'.guarded_invariant _ hkeep (fun tr htr => ⟨hok' tr htr, halone tr htr⟩) ⟨hbacked, rfl, rfl⟩).1
  rw [WaitSys.committed, WaitSys.committed, hidle, hidle'] at hcommitted
  rw [WaitSys.levels, WaitSys.levels, hidle, hidle'] at hlevels
  exact ⟨hcommitted, hlevels⟩

/-- A wait that is notified at once: its thread has the mutex again as it had it before. -/
theorem waits_are_balanced_notified :
    ∃ trs trs' s s', Run (WaitStep Mutex.shmBehaviour shmHandle) (WaitSys.init : WaitSys Nat) trs s ∧
      Run (WaitStep Mutex.shmBehaviour shmHandle) s trs' s' ∧
      (∃ tr ∈ trs', ∃ pred, tr.act = .block 1 pred) ∧ s'.reported 1 = s.reported 1 ∧
      s'.mtx.holds 1 = s.mtx.holds 1 := by
  have hlock : ((.ok .void, .held 1 0 true) : Except SystemError Reply × State Nat) ∈
      Call.lock.perform Mutex.shmBehaviour (shmHandle .created) 1 0 .free := lock_of_acquires .fresh
  have hunlock : ((0, .free) : Rc × State Nat) ∈
      RobustMutex.unlock Mutex.shmBehaviour 1 (.held 1 0 true) := by decide
  have hwake : ((0, .held 1 0 true) : Rc × State Nat) ∈ reacquire WaitCall.wait.osWait.returns 1 .free := by
    decide
  have hreported : 0 < Session.note (fun _ => 0) 1 true 1 := by simp [note_self]
  have hrun := Run.single (WaitStep.call (s := WaitSys.init) (c := .lock) rfl trivial
    (.call (h := Origin.created) rfl hlock))
  have henter : WaitStep Mutex.shmBehaviour shmHandle
      ⟨⟨⟨.held 1 0 true, Session.note (fun _ => 0) 1 true⟩, fun _ => true⟩, fun _ => .idle⟩
      (.enter 1 (ConditionVariable.named "cv" none (.caller 1)) .wait) _ := .enter rfl rfl hreported
  have hhead : WaitCall.wait.loopHead false = .goesOn := rfl
  have hrun' := Run.cons henter
    (.cons (.block rfl (update_self _ _ _) hhead hunlock)
    (.single (.wake (c := .wait) rfl (update_self _ _ _) hwake)))
  refine ⟨_, _, _, _, hrun, hrun', ⟨_, List.mem_cons_of_mem _ List.mem_cons_self, _, rfl⟩, ?_⟩
  exact waits_are_balanced hrun (by simp [WakesSound]) hrun' (by simp [WakesSound])
    (by simp [LeavesAlone]) rfl rfl

end AxzlCore

import AxzlCore.Library.ReportedHolds
import AxzlCore.Library.Runs
import AxzlCore.Mutex.Operations

/-!
# A mutex shared by threads and processes

The system the locking results are about: one `pthread_mutex_t`, any number of `Mutex` handles on it (in as
many processes as one likes), and any number of threads that call the operations of the class through
these handles in any order, and die at any point.

A step is one completed call of one thread, or a death.  A call that blocks is not a step until it
completes; whatever the other threads do in the meantime are steps of their own.  Next to the mutex and the
set of live threads the state counts, for every thread, the acquisitions that were reported to it and that
it has not answered with `Unlock` yet.
-/

set_option autoImplicit false

namespace AxzlCore

open Errno Function Outcomes RobustMutex Runs

/-- The mutex, what was reported to each thread, and which threads are alive. -/
structure Sys (T : Type) extends Session T where
  alive : T → Bool

/-- A freshly initialised mutex; nobody has called anything. -/
def Sys.init {T : Type} : Sys T := ⟨⟨.free, fun _ => 0⟩, fun _ => true⟩

/-- The operations of `Mutex`. -/
inductive Call
  | lock
  | unlock
  | tryLock
  | tryLockFor (now : Int) (duration : Duration)
  | tryLockUntil (timeoutTp : TimePoint)

/-- What an operation returns: nothing, or a `bool`. -/
inductive Reply
  | void
  | bool (b : Bool)
  deriving DecidableEq, Repr

/-- A call that waits with a deadline. -/
def Call.IsTimed : Call → Prop
  | .tryLockFor _ _ | .tryLockUntil _ => True
  | _ => False

/-- Whether the result of a call tells the caller that it acquired the mutex. -/
def Call.reports : Call → Except SystemError Reply → Bool
  | .unlock, _ => false
  | .lock, .ok _ => true
  | _, .ok (.bool b) => b
  | _, _ => false

/-- One step of the system: a completed call with its result, or the death of a thread. -/
inductive Action (T H : Type)
  | call (t : T) (h : H) (c : Call) (rcConsistent : Rc) (result : Except SystemError Reply)
  | die (t : T)

variable {T H : Type} [DecidableEq T]

/-- The operation behind a call. -/
def Call.perform (attr : Attr) (m : Mutex) (t : T) (rcConsistent : Rc) :
    Call → Comp (State T) SystemError Reply
  | .lock => do
      let u ← m.lock attr t rcConsistent
      return (fun _ => Reply.void) u
  | .unlock => do
      let u ← m.unlock attr t
      return (fun _ => Reply.void) u
  | .tryLock => do
      let b ← Mutex.tryLock attr t
      return Reply.bool b
  | .tryLockFor now duration => do
      let b ← m.tryLockFor attr t rcConsistent now duration
      return Reply.bool b
  | .tryLockUntil timeoutTp => do
      let b ← m.tryLockUntil attr t rcConsistent timeoutTp
      return Reply.bool b

/-- The reports outstanding after a call of `t`: an acquisition adds what it reports, `Unlock` answers
one. -/
def Call.account (c : Call) (reported : T → Nat) (t : T) (r : Except SystemError Reply) : T → Nat :=
  match c with
  | .unlock => update reported t (reported t - 1)
  | c => Session.note reported t (c.reports r)

/-- The steps of the system, for a mutex with the behaviour `attr` and the handles `handle`. -/
inductive SysStep (attr : Attr) (handle : H → Mutex) : Sys T → Action T H → Sys T → Prop
  | call {s : Sys T} {t : T} {h : H} {c : Call} {rcConsistent : Rc} {r : Except SystemError Reply}
      {m : State T} (halive : s.alive t = true)
      (hcall : (r, m) ∈ c.perform attr (handle h) t rcConsistent s.mtx) :
      SysStep attr handle s (.call t h c rcConsistent r) ⟨⟨m, c.account s.reported t r⟩, s.alive⟩
  | die {s : Sys T} {t : T} (halive : s.alive t = true) :
      SysStep attr handle s (.die t)
        ⟨⟨ownerDies attr t s.mtx, update s.reported t 0⟩, update s.alive t false⟩

/-- A call leaves the reports of the other threads alone. -/
theorem account_of_ne (c : Call) (reported : T → Nat) {t u : T} (r : Except SystemError Reply)
    (hne : u ≠ t) : c.account reported t r u = reported u := by
  cases c with
  | unlock => exact update_of_ne hne _ _
  | lock => exact note_of_ne _ _ hne
  | tryLock => exact note_of_ne _ _ hne
  | tryLockFor now duration => exact note_of_ne _ _ hne
  | tryLockUntil timeoutTp => exact note_of_ne _ _ hne

/-! ## Results of the operations, as results of calls -/

section Perform

variable {attr : Attr} {m : Mutex} {t : T} {rcConsistent : Rc} {s s' : State T}
  {r : Except SystemError Reply}

theorem mem_perform_lock :
    (r, s') ∈ Call.lock.perform attr m t rcConsistent s ↔
      ∃ r₀, (r₀, s') ∈ m.lock attr t rcConsistent s ∧ r = r₀.map fun _ => Reply.void :=
  Comp.mem_bind_pure

theorem mem_perform_unlock :
    (r, s') ∈ Call.unlock.perform attr m t rcConsistent s ↔
      ∃ r₀, (r₀, s') ∈ m.unlock attr t s ∧ r = r₀.map fun _ => Reply.void :=
  Comp.mem_bind_pure

theorem mem_perform_tryLock :
    (r, s') ∈ Call.tryLock.perform attr m t rcConsistent s ↔
      ∃ r₀, (r₀, s') ∈ Mutex.tryLock attr t s ∧ r = r₀.map Reply.bool :=
  Comp.mem_bind_pure

/-- Both timed calls are `TryLockUntil` at some deadline. -/
theorem mem_perform_timed {c : Call} (hc : c.IsTimed)
    (h : (r, s') ∈ c.perform attr m t rcConsistent s) :
    ∃ timeoutTp r₀, (r₀, s') ∈ m.tryLockUntil attr t rcConsistent timeoutTp s ∧
      r = r₀.map Reply.bool := by
  cases c with
  | lock | unlock | tryLock => exact hc.elim
  | tryLockFor now duration => exact ⟨_, Comp.mem_bind_pure.mp h⟩
  | tryLockUntil timeoutTp => exact ⟨_, Comp.mem_bind_pure.mp h⟩

end Perform

omit [DecidableEq T] in
/-- A timed call reports exactly the `true` it returns. -/
theorem Call.reports_timed {c : Call} (hc : c.IsTimed) (r₀ : Except SystemError Bool) :
    c.reports (r₀.map Reply.bool) = true ↔ r₀ = .ok true := by
  cases c with
  | lock | unlock | tryLock => exact hc.elim
  | tryLockFor now duration =>
      cases r₀ with
      | error e => simp [Call.reports, Except.map]
      | ok b => simp [Call.reports, Except.map]
  | tryLockUntil timeoutTp =>
      cases r₀ with
      | error e => simp [Call.reports, Except.map]
      | ok b => simp [Call.reports, Except.map]

/-- A `Lock` through a robust handle for which `pthread_mutex_consistent` succeeds: the one kind of call
that recovers an abandoned mutex and says so. -/
def Call.Recovers (c : Call) (m : Mutex) (rcConsistent : Rc) : Prop :=
  c = .lock ∧ m.mRobust = true ∧ rcConsistent = 0

/-- **What a completed acquiring call did**: it took the mutex as the OS call did and reported it; or it
inherited the abandoned mutex, which only a recovering `Lock` reports; or it did nothing. -/
theorem perform_cases {attr : Attr} {m : Mutex} {t : T} {rcConsistent : Rc} {s s' : State T} {c : Call}
    {r : Except SystemError Reply} (hc : c ≠ .unlock)
    (h : (r, s') ∈ c.perform attr m t rcConsistent s) :
    (Acquires attr.kind t s 0 s' ∧ c.reports r = true) ∨
      (s = .abandoned ∧ c.Recovers m rcConsistent ∧ c.reports r = true ∧ s' = .held t 0 true) ∨
      (s = .abandoned ∧ ¬ c.Recovers m rcConsistent ∧ c.reports r = false ∧
        ∃ consistent, s' = .held t 0 consistent) ∨
      (s ≠ .abandoned ∧ c.reports r = false ∧ s' = s) := by
  by_cases htimed : c.IsTimed
  · obtain ⟨timeoutTp, r₀, hmem, rfl⟩ := mem_perform_timed htimed h
    have hnot : ¬ c.Recovers m rcConsistent := by
      rintro ⟨rfl, -⟩
      exact htimed
    have hsilent : ∀ {r₁ : Except SystemError Bool}, r₁ ≠ .ok true →
        c.reports (r₁.map Reply.bool) = false := fun hr =>
      Bool.eq_false_iff.mpr fun hreports => hr ((Call.reports_timed htimed _).mp hreports)
    rcases Mutex.tryLockUntil_cases hmem with
      ⟨hacq, rfl⟩ | ⟨-, rfl, rfl, rfl⟩ | ⟨-, rfl, ⟨e, rfl⟩, rfl⟩ | ⟨hs, hr, rfl⟩
    · exact .inl ⟨hacq, (Call.reports_timed htimed _).mpr rfl⟩
    · exact .inr (.inr (.inl ⟨rfl, hnot, hsilent (by simp), true, rfl⟩))
    · exact .inr (.inr (.inl ⟨rfl, hnot, hsilent (by simp), false, rfl⟩))
    · refine .inr (.inr (.inr ⟨hs, hsilent ?_, rfl⟩))
      rcases hr with rfl | ⟨e, rfl⟩
      · simp
      · simp
  · cases c with
    | unlock => exact absurd rfl hc
    | tryLockFor now duration | tryLockUntil tp => exact absurd trivial htimed
    | lock =>
        obtain ⟨r₀, hmem, rfl⟩ := mem_perform_lock.mp h
        rcases Mutex.lock_cases hmem with
          ⟨hacq, rfl⟩ | ⟨hrecovers, rfl, rfl, rfl⟩ | ⟨hnot, rfl, ⟨e, rfl⟩, rfl⟩ | ⟨hs, ⟨e, rfl⟩, rfl⟩
        · exact .inl ⟨hacq, rfl⟩
        · exact .inr (.inl ⟨rfl, ⟨rfl, hrecovers⟩, rfl, rfl⟩)
        · exact .inr (.inr (.inl ⟨rfl, fun hrec => hnot hrec.2, rfl, false, rfl⟩))
        · exact .inr (.inr (.inr ⟨hs, rfl, rfl⟩))
    | tryLock =>
        obtain ⟨r₀, hmem, rfl⟩ := mem_perform_tryLock.mp h
        rcases Mutex.tryLock_cases hmem with ⟨hacq, rfl⟩ | ⟨rfl, rfl, rfl⟩ | ⟨hs, rfl, rfl⟩
        · exact .inl ⟨hacq, rfl⟩
        · exact .inr (.inr (.inl ⟨rfl, fun hrec => Call.noConfusion hrec.1, rfl, false, rfl⟩))
        · exact .inr (.inr (.inr ⟨hs, rfl, rfl⟩))

/-- A successful acquisition is one `Lock` can make as well. -/
theorem lock_of_acquires {attr : Attr} {m : Mutex} {t : T} {rcConsistent : Rc} {s s' : State T}
    (h : Acquires attr.kind t s 0 s') :
    (.ok .void, s') ∈ Call.lock.perform attr m t rcConsistent s := by
  refine mem_perform_lock.mpr ⟨.ok (), ?_, rfl⟩
  unfold Mutex.lock
  simp only [pthreadMutexLock, Comp.mem_ofList_bind]
  refine ⟨0, s', mem_lock_of_acquires h, ?_⟩
  rw [if_neg (by simp)]
  exact Comp.mem_pure.mpr ⟨rfl, rfl⟩

/-! ## Abandoning the mutex -/

/-- The state after `t` locked the fresh mutex and died. -/
def Sys.abandonedBy (t : T) : Sys T :=
  ⟨⟨.abandoned, update (update (fun _ => 0) t 1) t 0⟩, update (fun _ => true) t false⟩

/-- The two steps: `t` locks through `h`, and dies as the owner. -/
def abandonTrs (t : T) (h : H) : List (Transition (Sys T) (Action T H)) :=
  [⟨Sys.init, .call t h .lock 0 (.ok .void),
      ⟨⟨.held t 0 true, update (fun _ => 0) t 1⟩, fun _ => true⟩⟩,
    ⟨⟨⟨.held t 0 true, update (fun _ => 0) t 1⟩, fun _ => true⟩, .die t, Sys.abandonedBy t⟩]

/-- A robust mutex can be abandoned. -/
theorem run_abandon {attr : Attr} (hrobust : attr.robust = true) (handle : H → Mutex) (t : T)
    (h : H) : Run (SysStep attr handle) Sys.init (abandonTrs t h) (Sys.abandonedBy t) := by
  refine .cons (.call rfl (lock_of_acquires .fresh)) (.cons ?_ (.nil _))
  have hdies : ownerDies attr t (.held t 0 true) = .abandoned := by
    simp [ownerDies, hrobust]
  show SysStep attr handle _ (.die t)
    ⟨⟨.abandoned, update (update (fun _ => 0) t 1) t 0⟩, update (fun _ => true) t false⟩
  rw [← hdies]
  exact .die rfl

/-- The run of `run_abandon`, continued by one call of another thread on the abandoned mutex. -/
theorem run_call_abandoned {attr : Attr} (hrobust : attr.robust = true) (handle : H → Mutex)
    {t u : T} (h h' : H) {c : Call} {rcConsistent : Rc} {r : Except SystemError Reply} {m : State T}
    (hne : u ≠ t) (hcall : (r, m) ∈ c.perform attr (handle h') u rcConsistent .abandoned) :
    Run (SysStep attr handle) Sys.init
      (abandonTrs t h ++ [⟨Sys.abandonedBy t, .call u h' c rcConsistent r,
        ⟨⟨m, c.account (Sys.abandonedBy t).reported u r⟩, (Sys.abandonedBy t).alive⟩⟩])
      ⟨⟨m, c.account (Sys.abandonedBy t).reported u r⟩, (Sys.abandonedBy t).alive⟩ := by
  refine (run_abandon hrobust handle t h).append (.single (.call ?_ hcall))
  show update (fun _ => true) t false u = true
  rw [update_of_ne hne]

end AxzlCore

import AxzlCore.Library.RobustMutex
import Mathlib.Logic.Relation

/-!
# Reported holds of a robust mutex

Client code sees an acquisition only through what the acquiring call reports.  This module says which
reports are enough to keep a robust mutex recoverable.

* `Sound` — a completed acquisition attempt may leave the mutex alone, or give the caller a level, and
  it may report success or keep silent about a level it did give; but a level inherited inconsistent is
  never reported.
* `Session`, `SessionStep` — the mutex with the number of unreleased reported acquisitions of every
  thread; threads release only what was reported to them, and may die at any point.
* `Backed` — the inductive invariant: reports are backed by real levels, and while the mutex is
  inconsistent its owner holds strictly more levels than it was told about.  A full release while
  inconsistent would need all levels to be reported, so the mutex never becomes not recoverable
  (`backed_of_steps`).
-/

set_option autoImplicit false

namespace RobustMutex

open Errno Function

universe u

variable {T : Type u} [DecidableEq T]

/-- A sound acquisition attempt of thread `t`: the mutex before, whether success was reported, the mutex
after. -/
inductive Sound (t : T) : State T → Bool → State T → Prop
  | unchanged {s : State T} : Sound t s false s
  | fresh {reported : Bool} : Sound t .free reported (.held t 0 true)
  | again {n : Nat} {c reported : Bool} : Sound t (.held t n c) reported (.held t (n + 1) c)
  | recovered {reported : Bool} : Sound t .abandoned reported (.held t 0 true)
  | inherited : Sound t .abandoned false (.held t 0 false)

/-- A mutex and, for every thread, the acquisitions reported to it and not yet released. -/
structure Session (T : Type u) where
  mtx : State T
  reported : T → Nat

/-- Counting one more report for `t`, if success was reported. -/
def Session.note (reported : T → Nat) (t : T) (ok : Bool) : T → Nat :=
  if ok then update reported t (reported t + 1) else reported

/-- The steps of a session. -/
inductive SessionStep (attr : Attr) : Session T → Session T → Prop
  | acquire {s : Session T} {t : T} {ok : Bool} {m : State T} (hsound : Sound t s.mtx ok m) :
      SessionStep attr s ⟨m, Session.note s.reported t ok⟩
  | release {s : Session T} {t : T} {rc : Rc} {m : State T} (hreported : 0 < s.reported t)
      (hunlock : (rc, m) ∈ unlock attr t s.mtx) :
      SessionStep attr s ⟨m, update s.reported t (s.reported t - 1)⟩
  | die {s : Session T} (t : T) :
      SessionStep attr s ⟨ownerDies attr t s.mtx, update s.reported t 0⟩

/-- Every report is backed by a level, and an inconsistent mutex has a level nobody was told about. -/
structure Backed (s : Session T) : Prop where
  le_holds : ∀ t, s.reported t ≤ s.mtx.holds t
  below : ∀ t n, s.mtx = .held t n false → s.reported t ≤ n
  recoverable : s.mtx ≠ .notRecoverable

/-- A fresh mutex with nothing reported is backed. -/
theorem backed_init : Backed (⟨.free, fun _ => 0⟩ : Session T) where
  le_holds := by simp
  below := by simp
  recoverable := by simp

/-- Nobody but the owner has a report. -/
theorem Backed.reported_of_ne {s : Session T} (h : Backed s) {t u : T} {n : Nat} {c : Bool}
    (hheld : s.mtx = .held t n c) (hne : u ≠ t) : s.reported u = 0 := by
  have hle := h.le_holds u
  rw [hheld, holds_held_of_ne n c hne.symm] at hle
  omega

/-- A mutex that is not held has no reports outstanding. -/
theorem Backed.reported_of_holds {s : Session T} (h : Backed s) {t : T}
    (hzero : s.mtx.holds t = 0) : s.reported t = 0 := by
  have hle := h.le_holds t
  omega

/-- What every held state needs: reports at most the levels of the owner, strictly fewer while
inconsistent, none for the others. -/
theorem backed_held {reported : T → Nat} {t : T} {n : Nat} {c : Bool}
    (howner : reported t ≤ n + 1) (hbelow : c = false → reported t ≤ n)
    (hother : ∀ u, u ≠ t → reported u = 0) : Backed (⟨.held t n c, reported⟩ : Session T) where
  le_holds u := by
    by_cases hu : u = t
    · subst hu
      simpa using howner
    · simp [hother u hu]
  below u m hm := by
    obtain ⟨rfl, rfl, rfl⟩ := State.held.inj hm
    exact hbelow rfl
  recoverable := by simp

theorem note_self (reported : T → Nat) (t : T) (ok : Bool) :
    Session.note reported t ok t = reported t + ok.toNat := by
  cases ok <;> simp [Session.note]

theorem note_of_ne (reported : T → Nat) {t u : T} (ok : Bool) (h : u ≠ t) :
    Session.note reported t ok u = reported u := by
  cases ok <;> simp [Session.note, h]

/-- The first level on a mutex nobody holds; taken inconsistent, it may not be reported. -/
theorem backed_first {mtx : State T} {reported : T → Nat}
    (h : Backed (⟨mtx, reported⟩ : Session T)) (hnobody : ∀ u, mtx.holds u = 0) {t : T} {ok c : Bool}
    (hreport : c = false → ok = false) :
    Backed (⟨.held t 0 c, Session.note reported t ok⟩ : Session T) := by
  have hzero : ∀ u, reported u = 0 := fun u => h.reported_of_holds (hnobody u)
  have hok : ok.toNat ≤ 1 := Bool.toNat_le ok
  refine backed_held ?_ (fun hc => ?_) fun u hu => ?_
  · rw [note_self, hzero]
    omega
  · rw [note_self, hzero, hreport hc]
    simp
  · rw [note_of_ne _ _ hu, hzero]

/-- One more level for the owner, reported or not. -/
theorem backed_again {reported : T → Nat} {t : T} {n : Nat} {c : Bool}
    (h : Backed (⟨.held t n c, reported⟩ : Session T)) (ok : Bool) :
    Backed (⟨.held t (n + 1) c, Session.note reported t ok⟩ : Session T) := by
  have hok : ok.toNat ≤ 1 := Bool.toNat_le ok
  have hle : reported t ≤ n + 1 := by
    simpa using h.le_holds t
  refine backed_held ?_ (fun hc => ?_) fun u hu => ?_
  · rw [note_self]
    omega
  · -- the level that was not reported is still there
    subst hc
    have hbelow : reported t ≤ n := h.below t n rfl
    rw [note_self]
    omega
  · rw [note_of_ne _ _ hu]
    exact h.reported_of_ne rfl hu

/-- Acquisition attempts keep the invariant. -/
theorem backed_acquire {mtx m : State T} {reported : T → Nat}
    (h : Backed (⟨mtx, reported⟩ : Session T)) {t : T} {ok : Bool} (hsound : Sound t mtx ok m) :
    Backed (⟨m, Session.note reported t ok⟩ : Session T) := by
  cases hsound with
  | unchanged => simpa [Session.note] using h
  | fresh => exact backed_first h (fun _ => rfl) (fun hc => by cases hc)
  | again => exact backed_again h ok
  | recovered => exact backed_first h (fun _ => rfl) (fun hc => by cases hc)
  | inherited => exact backed_first h (fun _ => rfl) fun _ => rfl

/-- Releasing a reported level keeps the invariant: an inconsistent mutex has a level left. -/
theorem backed_release {attr : Attr} {s : Session T} (h : Backed s) {t : T} {rc : Rc} {m : State T}
    (hreported : 0 < s.reported t) (hunlock : (rc, m) ∈ unlock attr t s.mtx) :
    Backed (⟨m, update s.reported t (s.reported t - 1)⟩ : Session T) := by
  have hholds : 0 < s.mtx.holds t := Nat.lt_of_lt_of_le hreported (h.le_holds t)
  have hm : m = release s.mtx := by
    simp only [unlock, hholds, true_or, if_true, List.mem_singleton, Prod.mk.injEq] at hunlock
    exact hunlock.2
  subst hm
  obtain ⟨mtx, reported⟩ := s
  obtain ⟨extra, c, rfl⟩ := eq_held_of_holds hholds
  change 0 < reported t at hreported
  have hle : reported t ≤ extra + 1 := by
    simpa using h.le_holds t
  have hother : ∀ u, u ≠ t → update reported t (reported t - 1) u = 0 := by
    intro u hu
    rw [update_of_ne hu]
    exact h.reported_of_ne rfl hu
  cases extra with
  | succ extra =>
      refine backed_held ?_ (fun hc => ?_) hother
      · rw [update_self]
        show reported t - 1 ≤ extra + 1
        omega
      · subst hc
        have hbelow : reported t ≤ extra + 1 := h.below t (extra + 1) rfl
        rw [update_self]
        show reported t - 1 ≤ extra
        omega
  | zero =>
      cases c with
      | true =>
          refine ⟨fun u => ?_, by simp [release], by simp [release]⟩
          by_cases hu : u = t
          · subst hu
            simp only [update_self, release, holds_free]
            omega
          · simp [hother u hu]
      | false =>
          -- the last level is never reported while inconsistent
          have hbelow : reported t ≤ 0 := h.below t 0 rfl
          omega

/-- The death of a thread keeps the invariant: nothing is reported on an abandoned mutex. -/
theorem backed_die {attr : Attr} {s : Session T} (h : Backed s) (t : T) :
    Backed (⟨ownerDies attr t s.mtx, update s.reported t 0⟩ : Session T) := by
  have hle : ∀ u, update s.reported t 0 u ≤ s.reported u := by
    intro u
    by_cases hu : u = t
    · simp [hu]
    · simp [hu]
  by_cases hdies : 0 < s.mtx.holds t ∧ attr.robust = true
  · simp only [ownerDies, hdies, and_self, if_true]
    obtain ⟨n, c, hheld⟩ := eq_held_of_holds hdies.1
    refine ⟨fun u => ?_, by simp, by simp⟩
    -- the dead owner was the only one with reports
    by_cases hu : u = t
    · simp [hu]
    · show update s.reported t 0 u ≤ 0
      rw [update_of_ne hu]
      exact Nat.le_of_eq (h.reported_of_ne hheld hu)
  · simp only [ownerDies, hdies, if_false]
    exact ⟨fun u => Nat.le_trans (hle u) (h.le_holds u),
      fun u n hheld => Nat.le_trans (hle u) (h.below u n hheld), h.recoverable⟩

/-- The invariant is kept by every step of a session. -/
theorem backed_step {attr : Attr} {s s' : Session T} (h : Backed s) (hstep : SessionStep attr s s') :
    Backed s' := by
  cases hstep with
  | acquire hsound => exact backed_acquire h hsound
  | release hreported hunlock => exact backed_release h hreported hunlock
  | die t => exact backed_die h t

/-- **Reported releases keep a robust mutex recoverable**, along every run of a session. -/
theorem backed_of_steps {attr : Attr} {s s' : Session T} (h : Backed s)
    (hsteps : Relation.ReflTransGen (SessionStep attr) s s') : Backed s' := by
  induction hsteps with
  | refl => exact h
  | tail _ hstep ih => exact backed_step ih hstep

end RobustMutex

import AxzlCore.Library.ReportedHolds

/-!
# Exact accounts of a robust mutex

Stronger than being backed: the reports and the levels agree, thread by thread.

* `Accounted` — every thread owns exactly the levels reported to it, and the mutex is in order.
* `Accounted.acquires`, `Accounted.recovered` — acquisitions that are reported keep the accounts, a
  recovered mutex included.
* `Accounted.not_silent` — an acquisition that is not reported breaks them.
* `Accounted.unlock_iff`, `Accounted.die_iff` — a release and a death keep them under an exact condition:
  only an unchecked unlock by somebody else's thread, or the death of the owner of a stalled mutex, breaks
  them.
* `abandoned_of_unlock`, `abandoned_of_sound`, `robust_of_ownerDies` — only the death of an owner abandons
  a mutex, and only a robust one.
-/

set_option autoImplicit false

namespace RobustMutex

open Errno Function

universe u

variable {T : Type u} [DecidableEq T]

/-- The reports are the levels, and the mutex can still be used: whoever owns it owns it consistent. -/
structure Accounted (s : Session T) : Prop where
  eq_holds : ∀ t, s.reported t = s.mtx.holds t
  consistent : ∀ t n c, s.mtx = .held t n c → c = true
  recoverable : s.mtx ≠ .notRecoverable

/-- A fresh mutex with nothing reported. -/
theorem accounted_init : Accounted (⟨.free, fun _ => 0⟩ : Session T) where
  eq_holds := by simp
  consistent := by simp
  recoverable := by simp

namespace Accounted

variable {s : Session T} {t : T}

/-- Nobody but the owner has a report. -/
theorem reported_of_ne (h : Accounted s) {u : T} {n : Nat} {c : Bool} (hheld : s.mtx = .held t n c)
    (hne : u ≠ t) : s.reported u = 0 := by
  rw [h.eq_holds u, hheld]
  exact holds_held_of_ne n c hne.symm

/-- A thread with a report owns the mutex, consistent, at as many levels. -/
theorem eq_held (h : Accounted s) (hreported : 0 < s.reported t) :
    ∃ n, s.mtx = .held t n true ∧ s.reported t = n + 1 := by
  have heq := h.eq_holds t
  rw [heq] at hreported
  obtain ⟨n, c, hheld⟩ := eq_held_of_holds hreported
  have hc : c = true := h.consistent t n c hheld
  subst hc
  refine ⟨n, hheld, ?_⟩
  rw [heq, hheld, holds_held_self]

/-- A held state is accounted for when its owner has all the levels reported and the others none. -/
theorem held {reported : T → Nat} {n : Nat} (howner : reported t = n + 1)
    (hother : ∀ u, u ≠ t → reported u = 0) : Accounted (⟨.held t n true, reported⟩ : Session T) where
  eq_holds u := by
    by_cases hu : u = t
    · subst hu
      simpa using howner
    · show reported u = (State.held t n true).holds u
      rw [hother u hu, holds_held_of_ne n true (Ne.symm hu)]
  consistent u m c hm := (State.held.inj hm).2.2.symm
  recoverable := by simp

/-- A state nobody owns is accounted for when nothing is reported. -/
theorem unowned {m : State T} {reported : T → Nat} (hm : m = .free ∨ m = .abandoned)
    (hzero : ∀ u, reported u = 0) : Accounted (⟨m, reported⟩ : Session T) := by
  rcases hm with rfl | rfl
  · exact ⟨hzero, by simp, by simp⟩
  · exact ⟨hzero, by simp, by simp⟩

/-- A reported acquisition keeps the accounts. -/
theorem acquires {kind : Kind} {m : State T} (h : Accounted s) (hacq : Acquires kind t s.mtx 0 m) :
    Accounted ⟨m, Session.note s.reported t true⟩ := by
  have hnote : Session.note s.reported t true t = s.mtx.holds t + 1 := by
    rw [note_self, h.eq_holds t]
    rfl
  rcases hacq.of_zero with ⟨hfree, rfl⟩ | ⟨n, c, -, hheld, rfl⟩
  · refine held ?_ fun u hu => ?_
    · rw [hnote, hfree, holds_free]
    · rw [note_of_ne _ _ hu, h.eq_holds u, hfree, holds_free]
  · have hc : c = true := h.consistent t n c hheld
    subst hc
    refine held ?_ fun u hu => ?_
    · rw [hnote, hheld, holds_held_self]
    · rw [note_of_ne _ _ hu]
      exact h.reported_of_ne hheld hu

/-- A reported recovery of an abandoned mutex does too. -/
theorem recovered (h : Accounted s) (habandoned : s.mtx = .abandoned) :
    Accounted ⟨.held t 0 true, Session.note s.reported t true⟩ := by
  have hzero : ∀ u, s.reported u = 0 := by
    intro u
    rw [h.eq_holds u, habandoned, holds_abandoned]
  refine held ?_ fun u hu => ?_
  · rw [note_self, hzero t]
    rfl
  · rw [note_of_ne _ _ hu, hzero u]

/-- Inheriting the mutex without a report breaks them, recovered or not. -/
theorem not_silent (h : Accounted s) (habandoned : s.mtx = .abandoned) (c : Bool) :
    ¬ Accounted ⟨.held t 0 c, Session.note s.reported t false⟩ := by
  intro h'
  have heq : Session.note s.reported t false t = (State.held t 0 c).holds t := h'.eq_holds t
  rw [note_self, h.eq_holds t, habandoned, holds_abandoned, holds_held_self] at heq
  cases heq

/-- Releasing a level that is there keeps the accounts. -/
theorem release {n : Nat} (h : Accounted s) (hheld : s.mtx = .held t n true) :
    Accounted ⟨RobustMutex.release s.mtx, update s.reported t (s.reported t - 1)⟩ := by
  have hother : ∀ u, u ≠ t → update s.reported t (s.reported t - 1) u = 0 := by
    intro u hu
    rw [update_of_ne hu]
    exact h.reported_of_ne hheld hu
  have hself : update s.reported t (s.reported t - 1) t = n := by
    rw [update_self, h.eq_holds t, hheld, holds_held_self]
    rfl
  rw [hheld]
  cases n with
  | zero =>
      refine unowned (.inl rfl) fun u => ?_
      by_cases hu : u = t
      · rw [hu]
        exact hself
      · exact hother u hu
  | succ n => exact held hself hother

/-- **A completed unlock keeps the accounts** unless nobody checked that the caller owns anything while
another thread did. -/
theorem unlock_iff {attr : Attr} {rc : Rc} {m : State T} (h : Accounted s)
    (hunlock : (rc, m) ∈ unlock attr t s.mtx) :
    Accounted ⟨m, update s.reported t (s.reported t - 1)⟩ ↔
      (attr.kind = .normal → attr.robust = false → 0 < s.reported t ∨ ∀ u, s.reported u = 0) := by
  by_cases hreported : 0 < s.reported t
  · obtain ⟨n, hheld, -⟩ := h.eq_held hreported
    have hm : m = RobustMutex.release s.mtx := by
      have hholds : 0 < s.mtx.holds t := by
        rw [hheld]
        simp
      simp only [unlock, hholds, true_or, if_true, List.mem_singleton, Prod.mk.injEq] at hunlock
      exact hunlock.2
    rw [hm]
    exact ⟨fun _ _ _ => .inl hreported, fun _ => h.release hheld⟩
  · -- nothing to give back: the reports do not change
    have hzero : s.reported t = 0 := by omega
    have hsame : update s.reported t (s.reported t - 1) = s.reported := by
      rw [update_eq_self_iff, hzero]
    have hnone : ¬ 0 < s.mtx.holds t := by
      rw [← h.eq_holds t, hzero]
      exact Nat.lt_irrefl 0
    rw [hsame]
    by_cases hunchecked : attr.kind = .normal ∧ attr.robust = false
    · simp only [unlock, hunchecked, and_self, or_true, if_true, List.mem_singleton,
        Prod.mk.injEq] at hunlock
      obtain ⟨-, rfl⟩ := hunlock
      constructor
      · intro h' _ _
        refine .inr fun u => ?_
        -- the level taken away was reported to its owner
        by_contra hu
        obtain ⟨n, hheld, hn⟩ := h.eq_held (Nat.pos_of_ne_zero hu)
        have heq : s.reported u = (RobustMutex.release s.mtx).holds u := h'.eq_holds u
        rw [hheld, hn] at heq
        cases n with
        | zero => cases heq
        | succ n =>
            rw [show RobustMutex.release (State.held u (n + 1) true) = .held u n true from rfl,
              holds_held_self] at heq
            omega
      · intro hall
        have hnobody : ∀ u, s.reported u = 0 :=
          (hall hunchecked.1 hunchecked.2).resolve_left hreported
        have hrel : RobustMutex.release s.mtx = s.mtx := by
          cases hmtx : s.mtx with
          | free | abandoned | notRecoverable => rfl
          | held u n c =>
              have hu := h.eq_holds u
              rw [hmtx, holds_held_self, hnobody u] at hu
              cases hu
        rw [hrel]
        exact h
    · rw [unlock, if_neg (fun hor => hor.elim hnone hunchecked)] at hunlock
      obtain ⟨-, rfl⟩ := Prod.mk.inj (List.mem_singleton.mp hunlock)
      exact ⟨fun _ hkind hrobust => absurd ⟨hkind, hrobust⟩ hunchecked, fun _ => h⟩

/-- **A death keeps the accounts** unless it takes away reports of a mutex that stays held. -/
theorem die_iff (attr : Attr) (h : Accounted s) (t : T) :
    Accounted ⟨ownerDies attr t s.mtx, update s.reported t 0⟩ ↔
      (attr.robust = true ∨ s.reported t = 0) := by
  by_cases hzero : s.reported t = 0
  · have hnone : ¬ 0 < s.mtx.holds t := by
      rw [← h.eq_holds t, hzero]
      exact Nat.lt_irrefl 0
    have hsame : update s.reported t 0 = s.reported := by
      rw [update_eq_self_iff, hzero]
    rw [hsame, ownerDies, if_neg fun hdies => hnone hdies.1]
    exact ⟨fun _ => .inr hzero, fun _ => h⟩
  · obtain ⟨n, hheld, hn⟩ := h.eq_held (Nat.pos_of_ne_zero hzero)
    have howns : 0 < s.mtx.holds t := by
      rw [hheld]
      simp
    have hother : ∀ u, update s.reported t 0 u = 0 := by
      intro u
      by_cases hu : u = t
      · rw [hu, update_self]
      · rw [update_of_ne hu]
        exact h.reported_of_ne hheld hu
    by_cases hrobust : attr.robust = true
    · rw [ownerDies, if_pos ⟨howns, hrobust⟩]
      exact ⟨fun _ => .inl hrobust, fun _ => unowned (.inr rfl) hother⟩
    · rw [ownerDies, if_neg fun hdies => hrobust hdies.2]
      refine ⟨fun h' => ?_, fun hor => absurd hor (by simp [hrobust, hzero])⟩
      -- the dead owner still holds its levels
      have heq : update s.reported t 0 t = s.mtx.holds t := h'.eq_holds t
      rw [update_self] at heq
      omega

end Accounted

/-! ## Only a death abandons a mutex -/

theorem abandoned_of_unlock {attr : Attr} {t : T} {s : State T} {rc : Rc}
    (h : (rc, .abandoned) ∈ unlock attr t s) : s = .abandoned := by
  rw [unlock] at h
  split at h
  · obtain ⟨-, hrel⟩ := Prod.mk.inj (List.mem_singleton.mp h)
    unfold release at hrel
    split at hrel
    · cases hrel
    · cases hrel
    · cases hrel
    · exact hrel.symm
  · exact (Prod.mk.inj (List.mem_singleton.mp h)).2.symm

omit [DecidableEq T] in
theorem abandoned_of_sound {t : T} {s : State T} {ok : Bool} (h : Sound t s ok .abandoned) :
    s = .abandoned := by
  cases h with
  | unchanged => rfl

theorem robust_of_ownerDies {attr : Attr} {t : T} {s : State T} (hs : s ≠ .abandoned)
    (h : ownerDies attr t s = .abandoned) : attr.robust = true := by
  rw [ownerDies] at h
  split at h
  · next hdies => exact hdies.2
  · exact absurd h hs

end RobustMutex

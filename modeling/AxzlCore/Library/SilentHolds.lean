import AxzlCore.Library.ReportedHolds

/-!
# Silent holds of a robust mutex

A thread that inherited a mutex without being told owns more levels than it will ever give back.  The steps
of a session cannot repair that.

* `holds_of_sound_ne`, `holds_of_unlock_ne`, `holds_of_ownerDies_ne` — what other threads do leaves the
  levels of a thread alone.
* `Unaware` — the thread owns more levels than were reported to it.
* `unaware_acquire`, `unaware_release`, `unaware_die` — a thread stays unaware whatever the others do,
  deaths included, and whatever it acquires and releases itself.
* `sound_of_held` — meanwhile nobody else acquires anything.
-/

set_option autoImplicit false

namespace RobustMutex

open Function

universe u

variable {T : Type u}

/-- A call on a mutex that another thread holds is refused without a report. -/
theorem sound_of_held {s s' : State T} {t u : T} {n : Nat} {c ok : Bool} (hheld : s = .held t n c)
    (hne : u ≠ t) (h : Sound u s ok s') : ok = false ∧ s' = s := by
  subst hheld
  cases h with
  | unchanged => exact ⟨rfl, rfl⟩
  | again => exact absurd rfl hne

variable [DecidableEq T]

/-! ## Frames -/

/-- An acquisition of another thread gives a thread no level, and takes none. -/
theorem holds_of_sound_ne {s s' : State T} {t u : T} {ok : Bool} (h : Sound u s ok s') (hne : u ≠ t) :
    s'.holds t = s.holds t := by
  cases h with
  | unchanged => rfl
  | fresh => exact holds_held_of_ne _ _ hne
  | again => rw [holds_held_of_ne _ _ hne, holds_held_of_ne _ _ hne]
  | recovered => exact holds_held_of_ne _ _ hne
  | inherited => exact holds_held_of_ne _ _ hne

/-- Answering a report gives exactly one level back. -/
theorem holds_of_unlock_self {attr : Attr} {s : Session T} (hbacked : Backed s) {t : T}
    {rc : Errno.Rc} {m : State T} (hreported : 0 < s.reported t) (hunlock : (rc, m) ∈ unlock attr t s.mtx) :
    m.holds t + 1 = s.mtx.holds t := by
  have hholds : 0 < s.mtx.holds t := Nat.lt_of_lt_of_le hreported (hbacked.le_holds t)
  obtain ⟨n, c, hheld⟩ := eq_held_of_holds hholds
  rw [hheld] at hunlock ⊢
  simp only [unlock, holds_held_self, Nat.succ_pos, true_or, if_true, List.mem_singleton,
    Prod.mk.injEq] at hunlock ⊢
  obtain ⟨-, rfl⟩ := hunlock
  cases n with
  | succ n => simp [release]
  | zero =>
      cases c with
      | true => simp [release]
      | false => simp [release]

/-- Another thread that answers a report owns the mutex, before and after. -/
theorem holds_of_unlock_ne {attr : Attr} {s : Session T} (hbacked : Backed s) {t u : T}
    {rc : Errno.Rc} {m : State T} (hreported : 0 < s.reported u)
    (hunlock : (rc, m) ∈ unlock attr u s.mtx) (hne : u ≠ t) : m.holds t = s.mtx.holds t := by
  have hholds : 0 < s.mtx.holds u := Nat.lt_of_lt_of_le hreported (hbacked.le_holds u)
  obtain ⟨n, c, hheld⟩ := eq_held_of_holds hholds
  rw [hheld] at hunlock ⊢
  simp only [unlock, holds_held_self, Nat.succ_pos, true_or, if_true, List.mem_singleton,
    Prod.mk.injEq] at hunlock
  obtain ⟨-, rfl⟩ := hunlock
  rw [holds_held_of_ne n c hne]
  cases n with
  | succ n => exact holds_held_of_ne n c hne
  | zero =>
      cases c with
      | true => rfl
      | false => rfl

/-- The death of another thread takes no level from a thread. -/
theorem holds_of_ownerDies_ne {attr : Attr} {s : State T} {t u : T} (hne : u ≠ t) :
    (ownerDies attr u s).holds t = s.holds t := by
  rw [ownerDies]
  split
  · next hdies =>
      obtain ⟨n, c, rfl⟩ := eq_held_of_holds hdies.1
      exact (holds_held_of_ne n c hne).symm
  · rfl

/-! ## Unaware owners -/

/-- The thread owns more levels than were reported to it. -/
def Unaware (s : Session T) (t : T) : Prop := s.reported t < s.mtx.holds t

theorem Unaware.eq_held {s : Session T} {t : T} (h : Unaware s t) :
    ∃ n c, s.mtx = .held t n c ∧ s.reported t ≤ n := by
  obtain ⟨n, c, hheld⟩ := eq_held_of_holds (Nat.lt_of_le_of_lt (Nat.zero_le _) h)
  refine ⟨n, c, hheld, ?_⟩
  rw [Unaware, hheld, holds_held_self] at h
  omega

theorem unaware_held {reported : T → Nat} {t : T} {n : Nat} {c : Bool} (h : reported t ≤ n) :
    Unaware (⟨.held t n c, reported⟩ : Session T) t := by
  show reported t < (State.held t n c).holds t
  rw [holds_held_self]
  omega

/-- Inheriting a mutex nobody holds without a report makes a thread unaware. -/
theorem unaware_of_silent {s : Session T} (hbacked : Backed s) {t : T} {c : Bool}
    (hzero : s.mtx.holds t = 0) :
    Unaware (⟨.held t 0 c, Session.note s.reported t false⟩ : Session T) t := by
  apply unaware_held
  rw [note_self, hbacked.reported_of_holds hzero]
  simp

/-- Acquisitions, its own included, leave a thread unaware. -/
theorem unaware_acquire {s : Session T} {t u : T} (h : Unaware s t) {ok : Bool} {m : State T}
    (hsound : Sound u s.mtx ok m) : Unaware ⟨m, Session.note s.reported u ok⟩ t := by
  obtain ⟨n, c, hheld, hle⟩ := h.eq_held
  by_cases hut : u = t
  · subst hut
    rw [hheld] at hsound
    have hok : ok.toNat ≤ 1 := Bool.toNat_le ok
    cases hsound with
    | unchanged =>
        apply unaware_held
        rw [note_self]
        exact hle
    | again =>
        apply unaware_held
        rw [note_self]
        omega
  · show Session.note s.reported u ok t < m.holds t
    rw [note_of_ne _ _ (Ne.symm hut), holds_of_sound_ne hsound hut]
    exact h

/-- So do releases that answer a report: the reports run out before the levels do. -/
theorem unaware_release {attr : Attr} {s : Session T} (hbacked : Backed s) {t u : T} (h : Unaware s t)
    {rc : Errno.Rc} {m : State T} (hreported : 0 < s.reported u)
    (hunlock : (rc, m) ∈ unlock attr u s.mtx) :
    Unaware ⟨m, update s.reported u (s.reported u - 1)⟩ t := by
  obtain ⟨n, c, hheld, hle⟩ := h.eq_held
  have hut : u = t := by
    by_contra hne
    have hzero : s.reported u = 0 := hbacked.reported_of_ne hheld hne
    omega
  subst hut
  have hholds := holds_of_unlock_self hbacked hreported hunlock
  show update s.reported u (s.reported u - 1) u < m.holds u
  rw [update_self]
  rw [Unaware] at h
  omega

/-- The death of another thread does not touch the mutex. -/
theorem unaware_die {attr : Attr} {s : Session T} {t u : T} (h : Unaware s t) (hne : u ≠ t) :
    Unaware ⟨ownerDies attr u s.mtx, update s.reported u 0⟩ t := by
  show update s.reported u 0 t < (ownerDies attr u s.mtx).holds t
  rw [update_of_ne hne.symm, holds_of_ownerDies_ne hne]
  exact h

end RobustMutex

import AxzlCore.Library.Errno
import Mathlib.Logic.Function.Basic
import Mathlib.Tactic.ByContra

/-!
# POSIX mutexes, robust ones included

The state machine of one `pthread_mutex_t`, over an arbitrary type `T` of thread ids.

* `State` — free, held (with the levels a recursive owner has stacked and whether the protected state
  is consistent), abandoned by an owner that died, or not recoverable.
* `lock`, `clocklock`, `trylock`, `unlock`, `setConsistent`, `ownerDies` — the operations.  An acquiring
  operation returns the list of its possible completions; a call that can only wait has none.
* `Acquires` — the inversion lemma of all three acquiring operations at once: what a completed call did
  to the mutex, by cases.
-/

set_option autoImplicit false

namespace RobustMutex

open Errno

universe u

/-- `pthread_mutexattr_settype`. -/
inductive Kind
  | normal
  | errorcheck
  | recursive
  deriving DecidableEq, Repr

/-- The attributes of a mutex that decide how its operations behave. -/
structure Attr where
  kind : Kind
  robust : Bool
  deriving DecidableEq, Repr

/-- The state of one mutex.  `held owner extra consistent`: the owner holds it at `extra + 1` levels, and
`consistent` is false from the moment an abandoned mutex is inherited until
`pthread_mutex_consistent` succeeds. -/
inductive State (T : Type u)
  | free
  | held (owner : T) (extra : Nat) (consistent : Bool)
  | abandoned
  | notRecoverable
  deriving DecidableEq, Repr

variable {T : Type u} [DecidableEq T]

/-- How many levels of the mutex the thread holds. -/
def State.holds (t : T) : State T → Nat
  | .held owner extra _ => if owner = t then extra + 1 else 0
  | _ => 0

@[simp] theorem holds_free (t : T) : (State.free : State T).holds t = 0 := rfl

@[simp] theorem holds_abandoned (t : T) : (State.abandoned : State T).holds t = 0 := rfl

@[simp] theorem holds_notRecoverable (t : T) : (State.notRecoverable : State T).holds t = 0 := rfl

@[simp] theorem holds_held_self (t : T) (n : Nat) (c : Bool) :
    (State.held t n c).holds t = n + 1 := by
  simp [State.holds]

theorem holds_held_of_ne {t u : T} (n : Nat) (c : Bool) (h : u ≠ t) :
    (State.held u n c).holds t = 0 := by
  simp [State.holds, h]

/-- A thread that holds a level is the owner. -/
theorem eq_held_of_holds {t : T} {s : State T} (h : 0 < s.holds t) : ∃ n c, s = .held t n c := by
  cases s with
  | held owner extra c =>
      have howner : owner = t := by
        by_contra hne
        rw [holds_held_of_ne extra c hne] at h
        exact Nat.lt_irrefl 0 h
      subst howner
      exact ⟨extra, c, rfl⟩
  | free | abandoned | notRecoverable => cases h

/-! ## Operations -/

/-- The common part of the three acquiring operations by thread `t`.  `selfHeld` lists the errors a
non-recursive owner may get, `busy` those of a call that finds another owner. -/
def acquire (kind : Kind) (selfHeld busy : List Rc) (t : T) : State T → List (Rc × State T)
  | .free => [(0, .held t 0 true), (EINVAL, .free)]
  | .held owner extra c =>
      if owner = t then
        if kind = .recursive then
          [(0, .held owner (extra + 1) c), (EAGAIN, .held owner extra c)]
        else
          selfHeld.map fun rc => (rc, .held owner extra c)
      else
        busy.map fun rc => (rc, .held owner extra c)
  | .abandoned => [(EOWNERDEAD, .held t 0 false)]
  | .notRecoverable => [(ENOTRECOVERABLE, .notRecoverable)]

/-- What `pthread_mutex_lock` may tell an owner of a non-recursive mutex: an error-checking mutex
reports the deadlock, a normal one blocks for good. -/
def lockSelfHeld : Kind → List Rc
  | .normal => []
  | _ => [EDEADLK]

/-- What `pthread_mutex_clocklock` may tell an owner of a non-recursive mutex: a normal one waits for
itself until the deadline. -/
def clocklockSelfHeld : Kind → List Rc
  | .normal => [ETIMEDOUT, EINVAL]
  | _ => [EDEADLK]

/-- `pthread_mutex_lock`. -/
def lock (kind : Kind) (t : T) (s : State T) : List (Rc × State T) :=
  acquire kind (lockSelfHeld kind) [EINVAL] t s

/-- `pthread_mutex_clocklock`: as `lock`, and a wait may end at its deadline. -/
def clocklock (kind : Kind) (t : T) (s : State T) : List (Rc × State T) :=
  acquire kind (clocklockSelfHeld kind) [ETIMEDOUT, EINVAL] t s

/-- `pthread_mutex_trylock`: as `lock`, and a held mutex is reported busy. -/
def trylock (kind : Kind) (t : T) (s : State T) : List (Rc × State T) :=
  acquire kind [EBUSY] [EBUSY, EINVAL] t s

/-- The re-acquisition at the end of a condition wait that would return one of `codes`.  It waits for
another owner, and for a mutex in trouble it reports that instead. -/
def reacquire (codes : List Rc) (t : T) : State T → List (Rc × State T)
  | .free => codes.map fun rc => (rc, .held t 0 true)
  | .held owner extra c =>
      if owner = t then codes.map fun rc => (rc, .held owner (extra + 1) c) else []
  | .abandoned => [(EOWNERDEAD, .held t 0 false)]
  | .notRecoverable => [(ENOTRECOVERABLE, .notRecoverable)]

/-- Giving one level back: the last level frees the mutex, or makes it not recoverable when its state
was never made consistent. -/
def release : State T → State T
  | .held owner (extra + 1) c => .held owner extra c
  | .held _ 0 true => .free
  | .held _ 0 false => .notRecoverable
  | s => s

/-- `pthread_mutex_unlock`.  Robust, recursive and error-checking mutexes refuse a thread that does not
own them; a normal stalled one does not check who calls. -/
def unlock (attr : Attr) (t : T) (s : State T) : List (Rc × State T) :=
  if 0 < s.holds t ∨ (attr.kind = .normal ∧ attr.robust = false) then
    [(0, release s)]
  else
    [(EPERM, s)]

/-- `pthread_mutex_consistent` with return value `rc`. -/
def setConsistent (rc : Rc) : State T → State T
  | .held owner extra c => if rc = 0 then .held owner extra true else .held owner extra c
  | s => s

/-- The death of thread `t`: a robust mutex it owned is abandoned, a stalled one stays held. -/
def ownerDies (attr : Attr) (t : T) (s : State T) : State T :=
  if 0 < s.holds t ∧ attr.robust = true then .abandoned else s

/-! ## What a completed acquisition did -/

/-- The completions of an acquiring call by `t`, by cases. -/
inductive Acquires (kind : Kind) (t : T) : State T → Rc → State T → Prop
  | fresh : Acquires kind t .free 0 (.held t 0 true)
  | again {n : Nat} {c : Bool} (hkind : kind = .recursive) :
      Acquires kind t (.held t n c) 0 (.held t (n + 1) c)
  | inherited : Acquires kind t .abandoned EOWNERDEAD (.held t 0 false)
  | refused {s : State T} {rc : Rc} (hzero : rc ≠ 0) (hdead : rc ≠ EOWNERDEAD)
      (hs : s ≠ .abandoned) : Acquires kind t s rc s

theorem acquires_of_mem_acquire {kind : Kind} {selfHeld busy : List Rc} {t : T} {s s' : State T}
    {rc : Rc} (hself : ∀ e ∈ selfHeld, e ≠ 0 ∧ e ≠ EOWNERDEAD)
    (hbusy : ∀ e ∈ busy, e ≠ 0 ∧ e ≠ EOWNERDEAD)
    (h : (rc, s') ∈ acquire kind selfHeld busy t s) : Acquires kind t s rc s' := by
  cases s with
  | free =>
      simp only [acquire, List.mem_cons, Prod.mk.injEq, List.not_mem_nil, or_false] at h
      rcases h with ⟨rfl, rfl⟩ | ⟨rfl, rfl⟩
      · exact .fresh
      · exact .refused (by decide) (by decide) (by simp)
  | held owner extra c =>
      simp only [acquire] at h
      split at h
      · next howner =>
          subst howner
          split at h
          · next hkind =>
              simp only [List.mem_cons, Prod.mk.injEq, List.not_mem_nil, or_false] at h
              rcases h with ⟨rfl, rfl⟩ | ⟨rfl, rfl⟩
              · exact .again hkind
              · exact .refused (by decide) (by decide) (by simp)
          · obtain ⟨e, he, heq⟩ := List.mem_map.mp h
            obtain ⟨rfl, rfl⟩ := Prod.mk.inj heq
            exact .refused (hself e he).1 (hself e he).2 (by simp)
      · obtain ⟨e, he, heq⟩ := List.mem_map.mp h
        obtain ⟨rfl, rfl⟩ := Prod.mk.inj heq
        exact .refused (hbusy e he).1 (hbusy e he).2 (by simp)
  | abandoned =>
      simp only [acquire, List.mem_cons, Prod.mk.injEq, List.not_mem_nil, or_false] at h
      obtain ⟨rfl, rfl⟩ := h
      exact .inherited
  | notRecoverable =>
      simp only [acquire, List.mem_cons, Prod.mk.injEq, List.not_mem_nil, or_false] at h
      obtain ⟨rfl, rfl⟩ := h
      exact .refused (by decide) (by decide) (by simp)

theorem acquires_of_mem_lock {kind : Kind} {t : T} {s s' : State T} {rc : Rc}
    (h : (rc, s') ∈ lock kind t s) : Acquires kind t s rc s' :=
  acquires_of_mem_acquire (by cases kind <;> decide) (by decide) h

theorem acquires_of_mem_clocklock {kind : Kind} {t : T} {s s' : State T} {rc : Rc}
    (h : (rc, s') ∈ clocklock kind t s) : Acquires kind t s rc s' :=
  acquires_of_mem_acquire (by cases kind <;> decide) (by decide) h

theorem acquires_of_mem_trylock {kind : Kind} {t : T} {s s' : State T} {rc : Rc}
    (h : (rc, s') ∈ trylock kind t s) : Acquires kind t s rc s' :=
  acquires_of_mem_acquire (by decide) (by decide) h

/-- The ends of a condition wait of `t`, by cases. -/
theorem reacquire_cases {codes : List Rc} {t : T} {s s' : State T} {rc : Rc}
    (h : (rc, s') ∈ reacquire codes t s) :
    (s = .free ∧ s' = .held t 0 true) ∨
      (∃ n c, s = .held t n c ∧ s' = .held t (n + 1) c) ∨
      (s = .abandoned ∧ rc = EOWNERDEAD ∧ s' = .held t 0 false) ∨
      (s = .notRecoverable ∧ s' = .notRecoverable) := by
  cases s with
  | free =>
      obtain ⟨e, -, heq⟩ := List.mem_map.mp h
      obtain ⟨-, rfl⟩ := Prod.mk.inj heq
      exact .inl ⟨rfl, rfl⟩
  | held owner extra c =>
      simp only [reacquire] at h
      split at h
      · next howner =>
          subst howner
          obtain ⟨e, -, heq⟩ := List.mem_map.mp h
          obtain ⟨-, rfl⟩ := Prod.mk.inj heq
          exact .inr (.inl ⟨extra, c, rfl, rfl⟩)
      · cases h
  | abandoned =>
      obtain ⟨rfl, rfl⟩ := Prod.mk.inj (List.mem_singleton.mp h)
      exact .inr (.inr (.inl ⟨rfl, rfl, rfl⟩))
  | notRecoverable =>
      obtain ⟨-, rfl⟩ := Prod.mk.inj (List.mem_singleton.mp h)
      exact .inr (.inr (.inr ⟨rfl, rfl⟩))

omit [DecidableEq T] in
/-- A successful return took a free mutex, or one more level of a recursive one. -/
theorem Acquires.of_zero {kind : Kind} {t : T} {s s' : State T} (h : Acquires kind t s 0 s') :
    (s = .free ∧ s' = .held t 0 true) ∨
      ∃ n c, kind = .recursive ∧ s = .held t n c ∧ s' = .held t (n + 1) c := by
  generalize hrc : (0 : Rc) = rc at h
  cases h with
  | fresh => exact .inl ⟨rfl, rfl⟩
  | @again n c hkind => exact .inr ⟨n, c, hkind, rfl, rfl⟩
  | inherited => exact absurd hrc (by decide)
  | refused hzero hdead hs => exact absurd hrc.symm hzero

/-- A successful return gives the caller one level more. -/
theorem Acquires.holds_of_zero {kind : Kind} {t : T} {s s' : State T}
    (h : Acquires kind t s 0 s') : s'.holds t = s.holds t + 1 := by
  rcases h.of_zero with ⟨rfl, rfl⟩ | ⟨n, c, -, rfl, rfl⟩
  · simp
  · simp

/-- What any acquiring operation can do with success, `pthread_mutex_lock` can. -/
theorem mem_lock_of_acquires {kind : Kind} {t : T} {s s' : State T} (h : Acquires kind t s 0 s') :
    (0, s') ∈ lock kind t s := by
  rcases h.of_zero with ⟨rfl, rfl⟩ | ⟨n, c, rfl, rfl, rfl⟩
  · simp [lock, acquire]
  · simp [lock, acquire]

omit [DecidableEq T] in
/-- An error other than `EOWNERDEAD` leaves the mutex as it was. -/
theorem Acquires.eq_of_error {kind : Kind} {t : T} {s s' : State T} {rc : Rc}
    (h : Acquires kind t s rc s') (hzero : rc ≠ 0) (hdead : rc ≠ EOWNERDEAD) : s' = s := by
  cases h with
  | fresh => exact absurd rfl hzero
  | again hkind => exact absurd rfl hzero
  | inherited => exact absurd rfl hdead
  | refused => rfl

omit [DecidableEq T] in
/-- `EOWNERDEAD` is exactly the answer on an abandoned mutex. -/
theorem Acquires.ownerDead_iff {kind : Kind} {t : T} {s s' : State T} {rc : Rc}
    (h : Acquires kind t s rc s') : rc = EOWNERDEAD ↔ s = .abandoned := by
  cases h with
  | fresh => simp [EOWNERDEAD]
  | again hkind => simp [EOWNERDEAD]
  | inherited => simp
  | refused hzero hdead hs => simp [hdead, hs]

omit [DecidableEq T] in
/-- Inheriting an abandoned mutex gives the caller its first level, inconsistent. -/
theorem Acquires.of_abandoned {kind : Kind} {t : T} {s' : State T} {rc : Rc}
    (h : Acquires kind t .abandoned rc s') : rc = EOWNERDEAD ∧ s' = .held t 0 false := by
  cases h with
  | inherited => exact ⟨rfl, rfl⟩
  | refused hzero hdead hs => exact absurd rfl hs

omit [DecidableEq T] in
/-- A failed `pthread_mutex_consistent` changes nothing. -/
theorem setConsistent_of_ne {rc : Rc} (h : rc ≠ 0) (s : State T) : setConsistent rc s = s := by
  cases s with
  | held owner extra c => simp [setConsistent, h]
  | free | abandoned | notRecoverable => rfl

omit [DecidableEq T] in
@[simp] theorem setConsistent_held (t : T) (n : Nat) (c : Bool) :
    setConsistent 0 (.held t n c) = .held t n true := by
  simp [setConsistent]

end RobustMutex

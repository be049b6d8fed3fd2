import AxzlCore.Library.ReportedHolds

/-!
# A reentrant lock, as its users see it

What a lock is for, with no mutex behind it: every thread has a depth, and only a thread that is alone may
go deeper.

* `Step` — one level taken while everybody else is outside, one level given back, or all levels of a thread
  dropped because it is gone.
* `exclusive_of_steps` — two threads are never inside together.
* `reported_step` — the reported holds of a robust mutex are such a lock: whatever a step of a session does to
  the mutex itself, and however often that is abandoned, to the reports made to its users it is one step of the
  lock, or nothing.
-/

set_option autoImplicit false

namespace ReentrantLock

open Function Relation

universe u

variable {T : Type u} [DecidableEq T]

/-- The steps of the lock, on the depths of the threads. -/
inductive Step : (T → Nat) → (T → Nat) → Prop
  | acquire {depth : T → Nat} {t : T} (halone : ∀ u, u ≠ t → depth u = 0) :
      Step depth (update depth t (depth t + 1))
  | release {depth : T → Nat} {t : T} (hinside : 0 < depth t) :
      Step depth (update depth t (depth t - 1))
  | drop {depth : T → Nat} (t : T) : Step depth (update depth t 0)

/-- At most one thread is inside. -/
def Exclusive (depth : T → Nat) : Prop :=
  ∀ t u, 0 < depth t → 0 < depth u → t = u

omit [DecidableEq T] in
/-- Nobody is inside at first. -/
theorem exclusive_init : Exclusive (fun _ : T => 0) :=
  fun _ _ ht _ => absurd ht (Nat.lt_irrefl 0)

/-- Making one thread's depth smaller lets nobody in. -/
theorem Exclusive.update_le {depth : T → Nat} (h : Exclusive depth) {t : T} {n : Nat}
    (hle : n ≤ depth t) : Exclusive (update depth t n) := by
  have hbelow : ∀ u, update depth t n u ≤ depth u := by
    intro u
    by_cases hu : u = t
    · subst hu
      rw [update_self]
      exact hle
    · exact Nat.le_of_eq (update_of_ne hu _ _)
  intro u v hu hv
  exact h u v (Nat.lt_of_lt_of_le hu (hbelow u)) (Nat.lt_of_lt_of_le hv (hbelow v))

/-- Every step keeps the lock exclusive. -/
theorem exclusive_step {depth depth' : T → Nat} (h : Exclusive depth) (hstep : Step depth depth') :
    Exclusive depth' := by
  cases hstep with
  | release hinside => exact h.update_le (Nat.sub_le _ _)
  | drop t => exact h.update_le (Nat.zero_le _)
  | @acquire t halone =>
      -- whoever is inside afterwards is the thread that was alone
      have hself : ∀ u, 0 < update depth t (depth t + 1) u → u = t := by
        intro u hu
        by_contra hne
        rw [update_of_ne hne, halone u hne] at hu
        exact Nat.lt_irrefl 0 hu
      intro u v hu hv
      rw [hself u hu, hself v hv]

/-- **Mutual exclusion**, in every state the lock can reach. -/
theorem exclusive_of_steps {depth depth' : T → Nat} (h : Exclusive depth)
    (hsteps : ReflTransGen Step depth depth') : Exclusive depth' := by
  induction hsteps with
  | refl => exact h
  | tail _ hstep ih => exact exclusive_step ih hstep

end ReentrantLock

namespace RobustMutex

open Errno Function Relation

universe u

variable {T : Type u} [DecidableEq T]

/-- A thread whose acquisition is reported is the only one with reports. -/
theorem Backed.alone_of_sound {s : Session T} (h : Backed s) {t : T} {m : State T}
    (hsound : Sound t s.mtx true m) {u : T} (hne : u ≠ t) : s.reported u = 0 := by
  apply h.reported_of_holds
  generalize s.mtx = mtx at hsound
  cases hsound with
  | fresh => rfl
  | again => exact holds_held_of_ne _ _ hne.symm
  | recovered => rfl

/-- **The reports of a session are a reentrant lock**: one step of it is at most one step of the lock. -/
theorem reported_step {attr : Attr} {s s' : Session T} (h : Backed s) (hstep : SessionStep attr s s') :
    ReflGen ReentrantLock.Step s.reported s'.reported := by
  cases hstep with
  | @acquire t ok m hsound =>
      cases ok with
      | true => exact .single (.acquire fun u hu => h.alone_of_sound hsound hu)
      | false => exact .refl
  | release hreported hunlock => exact .single (.release hreported)
  | die t => exact .single (.drop t)

end RobustMutex

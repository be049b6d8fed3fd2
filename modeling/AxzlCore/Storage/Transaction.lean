import AxzlCore.Storage.Ledger

/-!
# Constructor code that is all or nothing

A piece of constructor code is all or nothing from a ledger when it either succeeds, or throws and leaves
the ledger as it found it.  Checked OS calls and scoped attribute objects keep this property, so it goes
through the constructors block by block (`AllOrNothing.check_then`, `AllOrNothing.in_scope`).
-/

set_option autoImplicit false

namespace AxzlCore

open Errno

/-- From `l` the code ends with `a` and `l'` when `ok` holds, and else throws and leaves `l`. -/
def AllOrNothing {α : Type} (ok : Prop) (x : Build α) (l : Ledger) (a : α) (l' : Ledger) : Prop :=
  (ok ∧ x l = .ok a l') ∨ (¬ ok ∧ ∃ e, e.IsThrown ∧ x l = .error e l)

namespace AllOrNothing

variable {α : Type} {ok : Prop} {x : Build α} {l l' : Ledger} {a : α}

/-- Code that always succeeds. -/
theorem of_eq (hx : x l = .ok a l') : AllOrNothing True x l a l' := .inl ⟨trivial, hx⟩

/-- An exception leaves the ledger alone. -/
theorem eq_of_error (h : AllOrNothing ok x l a l') {e : SystemError} {l₁ : Ledger}
    (hx : x l = .error e l₁) : ¬ ok ∧ e.IsThrown ∧ l₁ = l := by
  rcases h with ⟨-, hx'⟩ | ⟨hnot, e', hthrown, hx'⟩
  · rw [hx'] at hx
    cases hx
  · rw [hx'] at hx
    cases hx
    exact ⟨hnot, hthrown, rfl⟩

theorem congr {ok' : Prop} (hiff : ok ↔ ok') (h : AllOrNothing ok x l a l') :
    AllOrNothing ok' x l a l' := by
  rwa [← propext hiff]

/-- A checked OS call in front. -/
theorem check_then {rc : Rc} {name loc what : String} {f : Unit → Build α}
    (h : AllOrNothing ok (f ()) l a l') :
    AllOrNothing (rc = 0 ∧ ok) (check rc name loc what >>= f) l a l' := by
  by_cases hrc : rc = 0
  · rcases h with ⟨hok, hx⟩ | ⟨hnot, e, hthrown, hx⟩
    · exact .inl ⟨⟨hrc, hok⟩, check_bind_ok.mpr ⟨hrc, hx⟩⟩
    · refine .inr ⟨fun hall => hnot hall.2, e, hthrown, ?_⟩
      unfold check
      rw [if_neg (not_not.mpr hrc)]
      exact hx
  · refine .inr ⟨fun hall => hrc hall.1, _, isThrown_of_ne hrc name loc what, ?_⟩
    unfold check
    rw [if_pos hrc]
    rfl

/-- Code behind a part that leaves the ledger alone. -/
theorem bind_same {β : Type} {ok' : Prop} {f : α → Build β} {b : β}
    (h : AllOrNothing ok x l a l) (hnext : AllOrNothing ok' (f a) l b l') :
    AllOrNothing (ok ∧ ok') (x >>= f) l b l' := by
  have hbind : (x >>= f) l = EStateM.bind x f l := rfl
  unfold EStateM.bind at hbind
  rcases h with ⟨hok, hx⟩ | ⟨hnot, e, hthrown, hx⟩
  · rw [hx] at hbind
    rcases hnext with ⟨hok', hf⟩ | ⟨hnot, e, hthrown, hf⟩
    · exact .inl ⟨⟨hok, hok'⟩, hbind.trans hf⟩
    · exact .inr ⟨fun hall => hnot hall.2, e, hthrown, hbind.trans hf⟩
  · rw [hx] at hbind
    exact .inr ⟨fun hall => hnot hall.1, e, hthrown, hbind⟩

/-- The value returned is converted. -/
theorem map {β : Type} (h : AllOrNothing ok x l a l') (f : α → β) :
    AllOrNothing ok (f <$> x) l (f a) l' := by
  have hmap : (f <$> x) l = EStateM.map f x l := rfl
  unfold EStateM.map at hmap
  rcases h with ⟨hok, hx⟩ | ⟨hnot, e, hthrown, hx⟩
  · rw [hx] at hmap
    exact .inl ⟨hok, hmap⟩
  · rw [hx] at hmap
    exact .inr ⟨hnot, e, hthrown, hmap⟩

/-- A scoped attribute object is gone however its scope was left. -/
theorem in_scope {rcInit : Rc} {name what : String} (h : AllOrNothing ok x l.attrInit a l') :
    AllOrNothing (rcInit = 0 ∧ ok) (withScopedPosixAttr rcInit name what x) l a l'.attrDestroy := by
  by_cases hrc : rcInit = 0
  · rcases h with ⟨hok, hx⟩ | ⟨hnot, e, hthrown, hx⟩
    · exact .inl ⟨⟨hrc, hok⟩, withScopedPosixAttr_ok.mpr ⟨hrc, l', hx, rfl⟩⟩
    · refine .inr ⟨fun hall => hnot hall.2, e, hthrown, ?_⟩
      unfold withScopedPosixAttr check
      rw [if_neg (not_not.mpr hrc), pure_bind, modify_bind]
      unfold withCleanup
      rw [hx]
      rfl
  · refine .inr ⟨fun hall => hrc hall.1, _, isThrown_of_ne hrc name "ScopedPosixAttr" what, ?_⟩
    unfold withScopedPosixAttr check
    rw [if_pos hrc]
    rfl

end AllOrNothing

end AxzlCore

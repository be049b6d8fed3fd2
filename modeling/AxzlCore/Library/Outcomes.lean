import Mathlib.Data.List.Basic

/-!
# Computations with several possible outcomes

A computation on a state `σ` maps a state to the list of its possible outcomes: a value or an exception,
with the state it leaves.  An empty list is a call that does not complete from this state.  Sequencing
runs the second computation from every normal outcome of the first and passes exceptions through, so a
model written in `do` notation reads like the code it embeds, and `mem_bind` peels it apart again.
`RaisesOnly` bounds the exceptions of a computation by those of its parts.
-/

set_option autoImplicit false

namespace Outcomes

/-- A computation on `σ` that returns `α`, throws `ε`, or waits. -/
def Comp (σ ε α : Type) := σ → List (Except ε α × σ)

namespace Comp

variable {σ ε α β : Type}

/-- Return `a` and leave the state alone. -/
def ret (a : α) : Comp σ ε α := fun s => [(.ok a, s)]

/-- Throw `e` and leave the state alone. -/
def raise (e : ε) : Comp σ ε α := fun s => [(.error e, s)]

/-- Run `x`, and from each of its normal outcomes `f`. -/
def andThen (x : Comp σ ε α) (f : α → Comp σ ε β) : Comp σ ε β := fun s =>
  (x s).flatMap fun out =>
    match out with
    | (.ok a, s₁) => f a s₁
    | (.error e, s₁) => [(.error e, s₁)]

instance : Monad (Comp σ ε) where
  pure := ret
  bind := andThen

/-- A primitive that cannot throw, from the list of its answers. -/
def ofList (op : σ → List (α × σ)) : Comp σ ε α := fun s => (op s).map fun out => (.ok out.1, out.2)

@[simp] theorem mem_pure {a : α} {s s' : σ} {r : Except ε α} :
    (r, s') ∈ (pure a : Comp σ ε α) s ↔ r = .ok a ∧ s' = s := by
  change (r, s') ∈ [((.ok a : Except ε α), s)] ↔ _
  simp

@[simp] theorem mem_raise {e : ε} {s s' : σ} {r : Except ε α} :
    (r, s') ∈ (raise e : Comp σ ε α) s ↔ r = .error e ∧ s' = s := by
  simp [raise]

@[simp] theorem mem_ofList {op : σ → List (α × σ)} {s s' : σ} {r : Except ε α} :
    (r, s') ∈ (ofList op : Comp σ ε α) s ↔ ∃ a, (a, s') ∈ op s ∧ r = .ok a := by
  simp only [ofList, List.mem_map, Prod.mk.injEq, Prod.exists]
  constructor
  · rintro ⟨a, s₁, hmem, rfl, rfl⟩
    exact ⟨a, hmem, rfl⟩
  · rintro ⟨a, hmem, rfl⟩
    exact ⟨a, s', hmem, rfl, rfl⟩

/-- The outcomes of a sequence: those of the second part after a normal outcome of the first, and the
exceptions of the first. -/
theorem mem_bind {x : Comp σ ε α} {f : α → Comp σ ε β} {s s' : σ} {r : Except ε β} :
    (r, s') ∈ (x >>= f) s ↔
      (∃ a s₁, (.ok a, s₁) ∈ x s ∧ (r, s') ∈ f a s₁) ∨
        ∃ e, (.error e, s') ∈ x s ∧ r = .error e := by
  change (r, s') ∈ andThen x f s ↔ _
  simp only [andThen, List.mem_flatMap, Prod.exists]
  constructor
  · rintro ⟨out, s₁, hmem, hnext⟩
    cases out with
    | ok a => exact .inl ⟨a, s₁, hmem, hnext⟩
    | error e =>
        simp only [List.mem_singleton, Prod.mk.injEq] at hnext
        obtain ⟨rfl, rfl⟩ := hnext
        exact .inr ⟨e, hmem, rfl⟩
  · rintro (⟨a, s₁, hmem, hnext⟩ | ⟨e, hmem, rfl⟩)
    · exact ⟨.ok a, s₁, hmem, hnext⟩
    · exact ⟨.error e, s', hmem, by simp⟩

/-- A sequence that starts with a primitive. -/
theorem mem_ofList_bind {op : σ → List (α × σ)} {f : α → Comp σ ε β} {s s' : σ} {r : Except ε β} :
    (r, s') ∈ (ofList op >>= f) s ↔ ∃ a s₁, (a, s₁) ∈ op s ∧ (r, s') ∈ f a s₁ := by
  rw [mem_bind]
  constructor
  · rintro (⟨a, s₁, hmem, hnext⟩ | ⟨e, hmem, -⟩)
    · obtain ⟨b, hop, heq⟩ := mem_ofList.mp hmem
      cases heq
      exact ⟨a, s₁, hop, hnext⟩
    · obtain ⟨b, -, heq⟩ := mem_ofList.mp hmem
      cases heq
  · rintro ⟨a, s₁, hop, hnext⟩
    exact .inl ⟨a, s₁, mem_ofList.mpr ⟨a, hop, rfl⟩, hnext⟩

/-- A sequence that only converts the value returned. -/
theorem mem_bind_pure {x : Comp σ ε α} {g : α → β} {s s' : σ} {r : Except ε β} :
    (r, s') ∈ (x >>= fun a => pure (g a)) s ↔ ∃ r₀, (r₀, s') ∈ x s ∧ r = r₀.map g := by
  rw [mem_bind]
  constructor
  · rintro (⟨a, s₁, hmem, hnext⟩ | ⟨e, hmem, rfl⟩)
    · obtain ⟨rfl, rfl⟩ := mem_pure.mp hnext
      exact ⟨.ok a, hmem, rfl⟩
    · exact ⟨.error e, hmem, rfl⟩
  · rintro ⟨r₀, hmem, rfl⟩
    cases r₀ with
    | ok a => exact .inl ⟨a, s', hmem, mem_pure.mpr ⟨rfl, rfl⟩⟩
    | error e => exact .inr ⟨e, hmem, rfl⟩

/-! ## Deterministic computations -/

/-- A computation with one outcome. -/
def ofEState (x : EStateM ε σ α) : Comp σ ε α := fun s =>
  match x s with
  | .ok a s₁ => [(.ok a, s₁)]
  | .error e s₁ => [(.error e, s₁)]

theorem ofEState_of_ok {x : EStateM ε σ α} {s s₁ : σ} {a : α} (hx : x s = .ok a s₁) :
    ofEState x s = [(.ok a, s₁)] := by
  unfold ofEState
  rw [hx]

theorem ofEState_of_error {x : EStateM ε σ α} {s s₁ : σ} {e : ε} (hx : x s = .error e s₁) :
    ofEState x s = [(.error e, s₁)] := by
  unfold ofEState
  rw [hx]

/-- Sequencing means the same in both. -/
theorem ofEState_bind (x : EStateM ε σ α) (f : α → EStateM ε σ β) :
    ofEState (x >>= f) = ofEState x >>= fun a => ofEState (f a) := by
  funext s
  change ofEState (EStateM.bind x f) s = andThen (ofEState x) (fun a => ofEState (f a)) s
  unfold andThen
  cases hx : x s with
  | ok a s₁ =>
      have hbind : EStateM.bind x f s = f a s₁ := by
        unfold EStateM.bind
        rw [hx]
      rw [ofEState_of_ok hx, List.flatMap_singleton]
      unfold ofEState
      rw [hbind]
  | error e s₁ =>
      have hbind : EStateM.bind x f s = .error e s₁ := by
        unfold EStateM.bind
        rw [hx]
      rw [ofEState_of_error hx, ofEState_of_error hbind, List.flatMap_singleton]

/-! ## The exceptions of a computation -/

/-- Every exception the computation may throw satisfies `P`. -/
def RaisesOnly (P : ε → Prop) (x : Comp σ ε α) : Prop := ∀ s s' e, (.error e, s') ∈ x s → P e

variable {P : ε → Prop}

theorem raisesOnly_pure (a : α) : RaisesOnly P (pure a : Comp σ ε α) := by
  intro s s' e h
  cases (mem_pure.mp h).1

theorem raisesOnly_raise {e : ε} (he : P e) : RaisesOnly P (raise e : Comp σ ε α) := by
  intro s s' e' h
  cases (mem_raise.mp h).1
  exact he

theorem raisesOnly_ofList (op : σ → List (α × σ)) : RaisesOnly P (ofList op : Comp σ ε α) := by
  intro s s' e h
  obtain ⟨a, -, heq⟩ := mem_ofList.mp h
  cases heq

theorem RaisesOnly.bind {x : Comp σ ε α} {f : α → Comp σ ε β} (hx : RaisesOnly P x)
    (hf : ∀ a, RaisesOnly P (f a)) : RaisesOnly P (x >>= f) := by
  intro s s' e h
  rcases mem_bind.mp h with ⟨a, s₁, -, hnext⟩ | ⟨e', hfirst, heq⟩
  · exact hf a s₁ s' e hnext
  · cases heq
    exact hx s s' e hfirst

end Comp

end Outcomes

import Mathlib.Logic.Relation

/-!
# Runs of a labelled transition relation

A run is recorded transition by transition: the state before, the action and the state after.  Keeping
the transitions (and not only the states reached) lets a property speak about *every call made during a
run*, and lets a condition on the inputs be a condition on the state before the call.

* `Run` — the finite runs of a step relation, with their transitions, oldest first.
* `Run.guarded_invariant` — an invariant kept by every step that meets a condition holds throughout
  every run all of whose steps meet it; `Run.invariant` is the unconditional case.
* `Run.forall_iff` — two properties of a transition that agree on steps agree on runs.
* `Run.safe_iff_guarded` — when a step from a safe state stays safe exactly under a condition, a whole
  run stays safe exactly when each of its steps meets that condition.
* `Run.simulation` — a concrete run maps to a path of an abstract relation.
-/

set_option autoImplicit false

namespace Runs

universe u v w

variable {σ : Type u} {α : Type v}

/-- One transition of a run: the state before, the action, the state after. -/
structure Transition (σ : Type u) (α : Type v) where
  pre : σ
  act : α
  post : σ

/-- `Run step s₀ trs s`: from `s₀` the transitions `trs`, oldest first, lead to `s`. -/
inductive Run (step : σ → α → σ → Prop) : σ → List (Transition σ α) → σ → Prop
  | nil (s : σ) : Run step s [] s
  | cons {s s' s'' : σ} {a : α} {trs : List (Transition σ α)}
      (hstep : step s a s') (hrest : Run step s' trs s'') :
      Run step s (⟨s, a, s'⟩ :: trs) s''

namespace Run

variable {step : σ → α → σ → Prop} {s₀ s : σ} {trs : List (Transition σ α)}

/-- A run of one step. -/
theorem single {s' : σ} {a : α} (hstep : step s a s') : Run step s [⟨s, a, s'⟩] s' :=
  cons hstep (nil s')

/-- Runs compose. -/
theorem append {s' : σ} {trs' : List (Transition σ α)} (hrun : Run step s₀ trs s)
    (hrun' : Run step s trs' s') : Run step s₀ (trs ++ trs') s' := by
  induction hrun with
  | nil s => exact hrun'
  | cons hstep hrest ih => exact cons hstep (ih hrun')

/-- Every transition of a run is a step. -/
theorem step_of_mem (hrun : Run step s₀ trs s) {tr : Transition σ α} (htr : tr ∈ trs) :
    step tr.pre tr.act tr.post := by
  induction hrun with
  | nil s => simp at htr
  | cons hstep hrest ih =>
      rcases List.mem_cons.mp htr with rfl | hmem
      · exact hstep
      · exact ih hmem

/-- **Guarded invariants.**  Whatever the steps meeting `ok` preserve holds before and after every
transition of a run all of whose transitions meet `ok`. -/
theorem guarded_invariant {Inv : σ → Prop} (ok : σ → α → Prop)
    (hkeep : ∀ s a s', Inv s → ok s a → step s a s' → Inv s')
    (hrun : Run step s₀ trs s) (hok : ∀ tr ∈ trs, ok tr.pre tr.act) (h₀ : Inv s₀) :
    Inv s ∧ ∀ tr ∈ trs, Inv tr.pre ∧ Inv tr.post := by
  -- from the front: the invariant moves from the start of a run to the start of its tail
  induction hrun with
  | nil s => exact ⟨h₀, by simp⟩
  | cons hstep hrest ih =>
      have hpost := hkeep _ _ _ h₀ (hok _ List.mem_cons_self) hstep
      obtain ⟨hlast, hall⟩ := ih (fun tr htr => hok tr (List.mem_cons_of_mem _ htr)) hpost
      refine ⟨hlast, fun tr htr => ?_⟩
      rcases List.mem_cons.mp htr with rfl | hmem
      · exact ⟨h₀, hpost⟩
      · exact hall tr hmem

/-- An invariant of the step relation holds throughout every run. -/
theorem invariant {Inv : σ → Prop} (hkeep : ∀ s a s', Inv s → step s a s' → Inv s')
    (hrun : Run step s₀ trs s) (h₀ : Inv s₀) :
    Inv s ∧ ∀ tr ∈ trs, Inv tr.pre ∧ Inv tr.post :=
  hrun.guarded_invariant (fun _ _ => True)
    (fun s a s' hs _ hstep => hkeep s a s' hs hstep) (fun _ _ => trivial) h₀

/-- Two properties that agree on the transitions of a run, knowing that they are steps, hold of the whole
run together. -/
theorem forall_iff {P Q : Transition σ α → Prop} (hrun : Run step s₀ trs s)
    (hiff : ∀ tr ∈ trs, step tr.pre tr.act tr.post → (P tr ↔ Q tr)) :
    (∀ tr ∈ trs, P tr) ↔ ∀ tr ∈ trs, Q tr := by
  constructor
  · intro hP tr htr
    exact (hiff tr htr (hrun.step_of_mem htr)).mp (hP tr htr)
  · intro hQ tr htr
    exact (hiff tr htr (hrun.step_of_mem htr)).mpr (hQ tr htr)

/-- **Exact conditions for safety.**  If, under the invariant `Inv`, a step from a safe state is safe
again exactly when it meets `ok`, then a run from a safe state visits only safe states exactly when all
of its steps meet `ok`. -/
theorem safe_iff_guarded (Inv : σ → Prop) {Safe : σ → Prop} {ok : σ → α → Prop}
    (hkeep : ∀ s a s', Inv s → step s a s' → Inv s')
    (hiff : ∀ s a s', Inv s → Safe s → step s a s' → (Safe s' ↔ ok s a))
    (hrun : Run step s₀ trs s) (h₀ : Inv s₀) (hsafe : Safe s₀) :
    (∀ tr ∈ trs, Safe tr.post) ↔ ∀ tr ∈ trs, ok tr.pre tr.act := by
  induction hrun with
  | nil s => simp
  | cons hstep hrest ih =>
      simp only [List.forall_mem_cons]
      have hfirst := hiff _ _ _ h₀ hsafe hstep
      constructor
      · rintro ⟨hpost, hall⟩
        exact ⟨hfirst.mp hpost, (ih (hkeep _ _ _ h₀ hstep) hpost).mp hall⟩
      · rintro ⟨hok, hall⟩
        have hpost := hfirst.mpr hok
        exact ⟨hpost, (ih (hkeep _ _ _ h₀ hstep) hpost).mpr hall⟩

/-- **Simulation.**  If every step meeting `ok` maps to a path of the abstract relation `R`, under an
invariant the same steps keep, then so does every run whose steps all meet `ok`. -/
theorem simulation {τ : Type w} {R : τ → τ → Prop} {abs : σ → τ} (Inv : σ → Prop)
    (ok : σ → α → Prop)
    (hkeep : ∀ s a s', Inv s → ok s a → step s a s' → Inv s')
    (hsim : ∀ s a s', Inv s → ok s a → step s a s' → Relation.ReflTransGen R (abs s) (abs s'))
    (hrun : Run step s₀ trs s) (hok : ∀ tr ∈ trs, ok tr.pre tr.act) (h₀ : Inv s₀) :
    Relation.ReflTransGen R (abs s₀) (abs s) := by
  induction hrun with
  | nil s => exact Relation.ReflTransGen.refl
  | cons hstep hrest ih =>
      have hhead := hok _ List.mem_cons_self
      exact (hsim _ _ _ h₀ hhead hstep).trans
        (ih (fun tr htr => hok tr (List.mem_cons_of_mem _ htr)) (hkeep _ _ _ h₀ hhead hstep))

end Run

end Runs

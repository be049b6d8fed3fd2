import AxzlCore.Library.Runs

/-!
# Properties of the history of a run

An invariant of states cannot say what happened on the way to them.  Here the invariant may read the
transitions so far.

* `Run.history_invariant` — a property of the history and the state, kept by every step, holds of every run
  with its last state.
* `Since P Q` — at some point of the history `P` happened, and every transition after it is a `Q`;
  `Since.now` and `Since.later` say how one more transition makes or keeps it true.
-/

set_option autoImplicit false

namespace Runs

universe u v

variable {σ : Type u} {α : Type v} {step : σ → α → σ → Prop}

/-- **Invariants of histories.**  The property is checked where the history grows, at its newest end. -/
theorem Run.history_invariant {Inv : List (Transition σ α) → σ → Prop} {s₀ s : σ}
    {trs : List (Transition σ α)} (ok : σ → α → Prop)
    (hkeep : ∀ past s a s', Inv past s → ok s a → step s a s' → Inv (past ++ [⟨s, a, s'⟩]) s')
    (hrun : Run step s₀ trs s) (hok : ∀ tr ∈ trs, ok tr.pre tr.act) (h₀ : Inv [] s₀) : Inv trs s := by
  -- over a run that continues any history
  have hcontinues : ∀ past, Inv past s₀ → Inv (past ++ trs) s := by
    clear h₀
    induction hrun with
    | nil s =>
        intro past hpast
        rw [List.append_nil]
        exact hpast
    | @cons s s' s'' a trs hstep hrest ih =>
        intro past hpast
        have hfirst := hkeep past s a s' hpast (hok _ List.mem_cons_self) hstep
        have hall := ih (fun tr htr => hok tr (List.mem_cons_of_mem _ htr)) _ hfirst
        rw [List.append_assoc, List.singleton_append] at hall
        exact hall
  exact hcontinues [] h₀

/-- `P` happened, and `Q` has held of every transition since. -/
def Since (P Q : Transition σ α → Prop) (trs : List (Transition σ α)) : Prop :=
  ∃ before tr after, trs = before ++ tr :: after ∧ P tr ∧ ∀ tr' ∈ after, Q tr'

namespace Since

variable {P Q : Transition σ α → Prop} {trs : List (Transition σ α)} {tr : Transition σ α}

/-- It has just happened. -/
theorem now (h : P tr) : Since P Q (trs ++ [tr]) :=
  ⟨trs, tr, [], rfl, h, by simp⟩

/-- It happened before, and the newest transition keeps it. -/
theorem later (h : Since P Q trs) (hnew : Q tr) : Since P Q (trs ++ [tr]) := by
  obtain ⟨before, tr₀, after, rfl, hP, hQ⟩ := h
  refine ⟨before, tr₀, after ++ [tr], by simp, hP, fun tr' htr' => ?_⟩
  rcases List.mem_append.mp htr' with hmem | hlast
  · exact hQ tr' hmem
  · rw [List.mem_singleton.mp hlast]
    exact hnew

end Since

end Runs

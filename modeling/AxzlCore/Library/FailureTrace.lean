import AxzlCore.Library.Errno
import AxzlCore.Library.Outcomes

/-!
# The calls that failed, as a history variable

A computation is instrumented by a history that only grows: the error numbers of the OS calls that failed so
far.  An OS call is a primitive whose answer has an error number (`osCall`); everything else a computation
does is silent (`silent`).

* `Erases` — an instrumented computation is the original one with the history forgotten; `Erases.bind`
  composes such pairs, so an instrumented program is related to its original step by step.
* `ReportsLast` — every exception carries the error number of the call that failed last; the rules
  `reportsLast_raise`, `reportsLast_osCall_bind`, `reportsLast_silent_of_ok` and so on push it through a
  program, from its first statement to its last.
-/

set_option autoImplicit false

namespace FailureTrace

open Errno Outcomes Comp

/-- A state together with the error numbers of the calls that failed, latest first. -/
structure Traced (σ : Type) where
  state : σ
  failed : List Rc

/-- The history after a call with this error number; zero is success. -/
def note (number : Rc) (failed : List Rc) : List Rc := if number = 0 then failed else number :: failed

theorem note_of_ne {number : Rc} (hnumber : number ≠ 0) (failed : List Rc) :
    note number failed = number :: failed := if_neg hnumber

/-- A call that failed is the last failure of the history after it. -/
theorem head_note {number : Rc} (hnumber : number ≠ 0) (failed : List Rc) :
    (note number failed).head? = some number := by
  rw [note_of_ne hnumber]
  rfl

variable {σ ε α β : Type}

/-- Run `x` and extend the history by what its result says. -/
def record (extend : Except ε α → List Rc → List Rc) (x : Comp σ ε α) : Comp (Traced σ) ε α := fun t =>
  (x t.state).map fun out => (out.1, ⟨out.2, extend out.1 t.failed⟩)

/-- Code that makes no OS call. -/
def silent (x : Comp σ ε α) : Comp (Traced σ) ε α := record (fun _ failed => failed) x

/-- The history after an answer with the error number `number`. -/
def noteAnswer (number : α → Rc) : Except ε α → List Rc → List Rc
  | .ok a, failed => note (number a) failed
  | .error _, failed => failed

/-- An OS call; `number` is the error number of an answer. -/
def osCall (number : α → Rc) (x : Comp σ ε α) : Comp (Traced σ) ε α := record (noteAnswer number) x

/-- From `t` on, every exception carries the error number of the call that failed last. -/
def ReportsLast (code : ε → Rc) (x : Comp (Traced σ) ε α) (t : Traced σ) : Prop :=
  ∀ e t', (.error e, t') ∈ x t → t'.failed.head? = some (code e)

/-! ## Forgetting the history -/

/-- With its history forgotten, `x` has the outcomes of `y`. -/
def Erases (x : Comp (Traced σ) ε α) (y : Comp σ ε α) : Prop :=
  ∀ t r s', (r, s') ∈ y t.state ↔ ∃ failed, (r, ⟨s', failed⟩) ∈ x t

theorem erases_pure (a : α) : Erases (pure a : Comp (Traced σ) ε α) (pure a) := by
  intro t r s'
  rw [mem_pure]
  constructor
  · rintro ⟨rfl, rfl⟩
    exact ⟨t.failed, mem_pure.mpr ⟨rfl, rfl⟩⟩
  · rintro ⟨failed, hmem⟩
    obtain ⟨rfl, ht⟩ := mem_pure.mp hmem
    exact ⟨rfl, congrArg Traced.state ht⟩

theorem erases_raise (e : ε) : Erases (raise e : Comp (Traced σ) ε α) (raise e) := by
  intro t r s'
  rw [mem_raise]
  constructor
  · rintro ⟨rfl, rfl⟩
    exact ⟨t.failed, mem_raise.mpr ⟨rfl, rfl⟩⟩
  · rintro ⟨failed, hmem⟩
    obtain ⟨rfl, ht⟩ := mem_raise.mp hmem
    exact ⟨rfl, congrArg Traced.state ht⟩

theorem mem_record {extend : Except ε α → List Rc → List Rc} {x : Comp σ ε α} {t t' : Traced σ}
    {r : Except ε α} :
    (r, t') ∈ record extend x t ↔ (r, t'.state) ∈ x t.state ∧ t'.failed = extend r t.failed := by
  unfold record
  rw [List.mem_map]
  constructor
  · rintro ⟨⟨r', s'⟩, hmem, heq⟩
    obtain ⟨rfl, rfl⟩ := Prod.mk.inj heq
    exact ⟨hmem, rfl⟩
  · rintro ⟨hmem, hfailed⟩
    refine ⟨(r, t'.state), hmem, ?_⟩
    rw [← hfailed]

theorem erases_record (extend : Except ε α → List Rc → List Rc) (x : Comp σ ε α) :
    Erases (record extend x) x := by
  intro t r s'
  simp only [mem_record]
  exact ⟨fun hmem => ⟨_, hmem, rfl⟩, fun ⟨_, hmem, _⟩ => hmem⟩

theorem erases_silent (x : Comp σ ε α) : Erases (silent x) x := erases_record _ x

theorem erases_osCall (number : α → Rc) (x : Comp σ ε α) : Erases (osCall number x) x :=
  erases_record _ x

theorem Erases.bind {x : Comp (Traced σ) ε α} {y : Comp σ ε α} {f : α → Comp (Traced σ) ε β}
    {g : α → Comp σ ε β} (hx : Erases x y) (hf : ∀ a, Erases (f a) (g a)) :
    Erases (x >>= f) (y >>= g) := by
  intro t r s'
  simp only [mem_bind]
  constructor
  · rintro (⟨a, s₁, hfirst, hnext⟩ | ⟨e, hfirst, rfl⟩)
    · obtain ⟨failed₁, hfirst'⟩ := (hx t _ _).mp hfirst
      obtain ⟨failed, hnext'⟩ := (hf a ⟨s₁, failed₁⟩ _ _).mp hnext
      exact ⟨failed, .inl ⟨a, _, hfirst', hnext'⟩⟩
    · obtain ⟨failed, hfirst'⟩ := (hx t _ _).mp hfirst
      exact ⟨failed, .inr ⟨e, hfirst', rfl⟩⟩
  · rintro ⟨failed, ⟨a, t₁, hfirst, hnext⟩ | ⟨e, hfirst, rfl⟩⟩
    · exact .inl ⟨a, t₁.state, (hx t _ _).mpr ⟨t₁.failed, hfirst⟩, (hf a t₁ _ _).mpr ⟨failed, hnext⟩⟩
    · exact .inr ⟨e, (hx t _ _).mpr ⟨failed, hfirst⟩, rfl⟩

theorem Erases.ite {p : Prop} [Decidable p] {x x' : Comp (Traced σ) ε α} {y y' : Comp σ ε α}
    (hx : Erases x y) (hx' : Erases x' y') : Erases (if p then x else x') (if p then y else y') := by
  split
  · exact hx
  · exact hx'

/-! ## Which error number is reported -/

section Reports

variable {code : ε → Rc} {t : Traced σ}

theorem reportsLast_pure (a : α) : ReportsLast code (pure a) t := by
  intro e t' hmem
  cases (mem_pure.mp hmem).1

/-- An exception reports the last failure exactly when that is its code. -/
theorem reportsLast_raise {e : ε} :
    ReportsLast code (raise e : Comp (Traced σ) ε α) t ↔ t.failed.head? = some (code e) := by
  constructor
  · intro h
    exact h e t (mem_raise.mpr ⟨rfl, rfl⟩)
  · intro h e' t' hmem
    obtain ⟨heq, rfl⟩ := mem_raise.mp hmem
    cases heq
    exact h

/-- An OS call that never throws: what follows must report, whatever the answer. -/
theorem reportsLast_osCall_bind {number : α → Rc} {op : σ → List (α × σ)} {f : α → Comp (Traced σ) ε β} :
    ReportsLast code (osCall number (ofList op) >>= f) t ↔
      ∀ a s₁, (a, s₁) ∈ op t.state → ReportsLast code (f a) ⟨s₁, note (number a) t.failed⟩ := by
  constructor
  · intro h a s₁ hop e t' hnext
    refine h e t' (mem_bind.mpr (.inl ⟨a, _, ?_, hnext⟩))
    exact mem_record.mpr ⟨mem_ofList.mpr ⟨a, hop, rfl⟩, rfl⟩
  · intro h e t' hmem
    rcases mem_bind.mp hmem with ⟨a, ⟨s₁, failed₁⟩, hfirst, hnext⟩ | ⟨e', hfirst, -⟩
    · obtain ⟨hop, hfailed⟩ := mem_record.mp hfirst
      obtain ⟨b, hop, heq⟩ := mem_ofList.mp hop
      cases heq
      subst hfailed
      exact h a s₁ hop e t' hnext
    · obtain ⟨b, -, heq⟩ := mem_ofList.mp (mem_record.mp hfirst).1
      cases heq

/-- A sequence whose second part throws nothing. -/
theorem reportsLast_bind_iff {x : Comp (Traced σ) ε α} {f : α → Comp (Traced σ) ε β}
    (hf : ∀ a, RaisesOnly (fun _ => False) (f a)) :
    ReportsLast code (x >>= f) t ↔ ReportsLast code x t := by
  constructor
  · intro h e t' hmem
    exact h e t' (mem_bind.mpr (.inr ⟨e, hmem, rfl⟩))
  · intro h e t' hmem
    rcases mem_bind.mp hmem with ⟨a, t₁, -, hnext⟩ | ⟨e', hfirst, heq⟩
    · exact (hf a t₁ t' e hnext).elim
    · cases heq
      exact h e t' hfirst

/-- Converting the value returned makes no difference. -/
theorem reportsLast_bind_pure {x : Comp (Traced σ) ε α} {g : α → β} :
    ReportsLast code (x >>= fun a => pure (g a)) t ↔ ReportsLast code x t :=
  reportsLast_bind_iff fun a => raisesOnly_pure (g a)

section Deterministic

variable {x : EStateM ε σ α} {s s₁ : σ} {a : α} {e : ε} {failed : List Rc}
  {extend : Except ε α → List Rc → List Rc} {number : α → Rc} {f : α → Comp (Traced σ) ε β}

theorem record_bind_of_ok (hx : x s = .ok a s₁) (f : α → Comp (Traced σ) ε β) :
    (record extend (ofEState x) >>= f) ⟨s, failed⟩ = f a ⟨s₁, extend (.ok a) failed⟩ := by
  change andThen (record extend (ofEState x)) f ⟨s, failed⟩ = _
  unfold andThen record
  rw [ofEState_of_ok hx, List.map_singleton, List.flatMap_singleton]

theorem reportsLast_osCall_of_ok (hx : x s = .ok a s₁) :
    ReportsLast code (osCall number (ofEState x) >>= f) ⟨s, failed⟩ ↔
      ReportsLast code (f a) ⟨s₁, note (number a) failed⟩ := by
  unfold ReportsLast osCall
  rw [record_bind_of_ok hx]
  rfl

theorem reportsLast_silent_of_ok (hx : x s = .ok a s₁) :
    ReportsLast code (silent (ofEState x) >>= f) ⟨s, failed⟩ ↔ ReportsLast code (f a) ⟨s₁, failed⟩ := by
  unfold ReportsLast silent
  rw [record_bind_of_ok hx]

theorem reportsLast_get {g : σ → Comp (Traced σ) ε β} :
    ReportsLast code (silent (ofEState get) >>= g) ⟨s, failed⟩ ↔ ReportsLast code (g s) ⟨s, failed⟩ := by
  have hget : (get : EStateM ε σ σ) s = .ok s s := rfl
  exact reportsLast_silent_of_ok hget

/-- Code that throws reports the failures before it. -/
theorem reportsLast_silent_of_error (hx : x s = .error e s₁) :
    ReportsLast code (silent (ofEState x) >>= f) ⟨s, failed⟩ ↔ failed.head? = some (code e) := by
  have hrun : (silent (ofEState x) >>= f) ⟨s, failed⟩ = [(.error e, ⟨s₁, failed⟩)] := by
    change andThen (record (fun _ failed => failed) (ofEState x)) f ⟨s, failed⟩ = _
    unfold andThen record
    rw [ofEState_of_error hx, List.map_singleton, List.flatMap_singleton]
  unfold ReportsLast
  rw [hrun]
  simp

/-- Changing the state throws nothing. -/
theorem raisesOnly_silent_modify {P : ε → Prop} (g : σ → σ) :
    RaisesOnly P (silent (ofEState (modify g : EStateM ε σ PUnit))) := by
  intro t t' e hmem
  have hout := (mem_record.mp hmem).1
  rw [ofEState_of_ok (show (modify g : EStateM ε σ PUnit) t.state = .ok ⟨⟩ (g t.state) from rfl)] at hout
  cases (Prod.mk.inj (List.mem_singleton.mp hout)).1

end Deterministic

end Reports

end FailureTrace

import Mathlib.Logic.ExistsUnique
import Mathlib.Logic.Function.Basic

/-!
# A heap whose blocks have owners

Blocks of a heap come and go, and an address that was freed may be handed out again.  Each party of a program
has at most one block.

* `Tidy` — every owner's block is live and has the contents the owner expects; no block has two owners; no
  live block is without one.
* `tidy_allocate`, `tidy_transfer`, `tidy_free` — allocating for a party, handing the block over and freeing
  it keep the heap tidy.
* `Tidy.existsUnique_owner`, `Tidy.eq_empty` — a live block has exactly one owner, and once nobody owns
  anything the heap is empty.
-/

set_option autoImplicit false

namespace OwnedHeap

open Function

universe u v w

variable {P : Type u} {B : Type v} {V : Type w}

/-- The heap belongs to the parties: `owns` says who has which block, and `contents` what a party put, or
expects, there. -/
structure Tidy (contents : P → V) (owns : P → Option B) (heap : B → Option V) : Prop where
  owned : ∀ p b, owns p = some b → heap b = some (contents p)
  unique : ∀ p q b, owns p = some b → owns q = some b → p = q
  noLeak : ∀ b v, heap b = some v → ∃ p, owns p = some b

/-- Nobody owns anything of an empty heap. -/
theorem tidy_empty (contents : P → V) :
    Tidy contents (fun _ => none) (fun _ => none : B → Option V) where
  owned := by simp
  unique := by simp
  noLeak := by simp

section Steps

variable {contents : P → V} {owns : P → Option B} {heap : B → Option V}

/-- A live block has exactly one owner. -/
theorem Tidy.existsUnique_owner (h : Tidy contents owns heap) {b : B} {v : V} (hlive : heap b = some v) :
    ∃! p, owns p = some b := by
  obtain ⟨p, hp⟩ := h.noLeak b v hlive
  exact ⟨p, hp, fun q hq => h.unique q p b hq hp⟩

/-- When all parties are done, nothing is left behind. -/
theorem Tidy.eq_empty (h : Tidy contents owns heap) (hnobody : ∀ p, owns p = none) (b : B) :
    heap b = none := by
  cases hlive : heap b with
  | none => rfl
  | some v =>
      obtain ⟨p, hp⟩ := h.noLeak b v hlive
      rw [hnobody p] at hp
      cases hp

variable [DecidableEq P] [DecidableEq B]

/-- A party without a block allocates one, wherever the allocator finds room. -/
theorem tidy_allocate (h : Tidy contents owns heap) {p : P} {b : B} (hidle : owns p = none)
    (hroom : heap b = none) :
    Tidy contents (update owns p (some b)) (update heap b (some (contents p))) := by
  -- nobody else has a block there
  have hother : ∀ q, owns q ≠ some b := by
    intro q hq
    rw [h.owned q b hq] at hroom
    cases hroom
  refine ⟨fun q c hq => ?_, fun q r c hq hr => ?_, fun c v hlive => ?_⟩
  · by_cases hqp : q = p
    · subst hqp
      rw [update_self] at hq
      cases hq
      rw [update_self]
    · rw [update_of_ne hqp] at hq
      have hcb : c ≠ b := by
        rintro rfl
        exact hother q hq
      rw [update_of_ne hcb]
      exact h.owned q c hq
  · simp only [update_apply] at hq hr
    split at hq <;> split at hr
    · next hqp hrp => rw [hqp, hrp]
    · cases hq
      exact absurd hr (hother r)
    · cases hr
      exact absurd hq (hother q)
    · exact h.unique q r c hq hr
  · by_cases hcb : c = b
    · exact ⟨p, by rw [hcb, update_self]⟩
    · rw [update_of_ne hcb] at hlive
      obtain ⟨q, hq⟩ := h.noLeak c v hlive
      have hqp : q ≠ p := by
        rintro rfl
        rw [hidle] at hq
        cases hq
      exact ⟨q, by rw [update_of_ne hqp]; exact hq⟩

omit [DecidableEq B] in
/-- A party hands its block over to one that has none and expects the same contents. -/
theorem tidy_transfer (h : Tidy contents owns heap) {src dst : P} {b : B} (hsrc : owns src = some b)
    (hdst : owns dst = none) (hsame : contents dst = contents src) :
    Tidy contents (update (update owns src none) dst (some b)) heap := by
  have hne : src ≠ dst := by
    rintro rfl
    rw [hsrc] at hdst
    cases hdst
  -- who owns a block afterwards: the target that one, anybody else what it had
  have hback : ∀ q c, update (update owns src none) dst (some b) q = some c →
      q = dst ∧ c = b ∨ q ≠ src ∧ owns q = some c := by
    intro q c hq
    simp only [update_apply] at hq
    split at hq
    · next hqd => exact .inl ⟨hqd, (Option.some.inj hq).symm⟩
    · split at hq
      · cases hq
      · next hqs => exact .inr ⟨hqs, hq⟩
  refine ⟨fun q c hq => ?_, fun q r c hq hr => ?_, fun c v hlive => ?_⟩
  · rcases hback q c hq with ⟨rfl, rfl⟩ | ⟨-, hq⟩
    · rw [hsame]
      exact h.owned src c hsrc
    · exact h.owned q c hq
  · rcases hback q c hq with ⟨rfl, rfl⟩ | ⟨hqs, hq'⟩
    · rcases hback r c hr with ⟨rfl, -⟩ | ⟨hrs, hr'⟩
      · rfl
      · exact absurd (h.unique r src c hr' hsrc) hrs
    · rcases hback r c hr with ⟨-, rfl⟩ | ⟨-, hr'⟩
      · exact absurd (h.unique q src c hq' hsrc) hqs
      · exact h.unique q r c hq' hr'
  · obtain ⟨q, hq⟩ := h.noLeak c v hlive
    by_cases hqs : q = src
    · subst hqs
      rw [hsrc] at hq
      cases hq
      exact ⟨dst, by rw [update_self]⟩
    · have hqd : q ≠ dst := by
        rintro rfl
        rw [hdst] at hq
        cases hq
      exact ⟨q, by rw [update_of_ne hqd, update_of_ne hqs]; exact hq⟩

/-- An owner frees its block. -/
theorem tidy_free (h : Tidy contents owns heap) {p : P} {b : B} (hp : owns p = some b) :
    Tidy contents (update owns p none) (update heap b none) := by
  have hback : ∀ q c, update owns p none q = some c → q ≠ p ∧ owns q = some c := by
    intro q c hq
    simp only [update_apply] at hq
    split at hq
    · cases hq
    · next hqp => exact ⟨hqp, hq⟩
  refine ⟨fun q c hq => ?_, fun q r c hq hr => ?_, fun c v hlive => ?_⟩
  · obtain ⟨hqp, hq⟩ := hback q c hq
    have hcb : c ≠ b := by
      rintro rfl
      exact hqp (h.unique q p c hq hp)
    rw [update_of_ne hcb]
    exact h.owned q c hq
  · exact h.unique q r c (hback q c hq).2 (hback r c hr).2
  · have hcb : c ≠ b := by
      rintro rfl
      rw [update_self] at hlive
      cases hlive
    rw [update_of_ne hcb] at hlive
    obtain ⟨q, hq⟩ := h.noLeak c v hlive
    have hqp : q ≠ p := by
      rintro rfl
      rw [hp] at hq
      exact hcb (Option.some.inj hq).symm
    exact ⟨q, by rw [update_of_ne hqp]; exact hq⟩

end Steps

end OwnedHeap

import Mathlib.Data.Multiset.UnionInter
import Mathlib.Data.Set.Insert
import Mathlib.Logic.Function.Basic
import Mathlib.Logic.Relation

/-!
# Linear ownership

A registry of resources that are issued to holders, may change hands, and are retired one by one.

* `Registry`, `Step` — who holds what, what was ever issued, what was retired (with multiplicity); a step
  issues a new resource, hands one over to an idle holder, or retires one that is held.
* `steps_issue`, `steps_release`, `steps_handOver` — the same for holders that may have nothing.
* `Linear` — the invariant: a resource has at most one holder; what is held is issued and not retired;
  what is issued and not retired is held by someone; nothing is retired twice.
* `linear_of_steps` — every registry reached from the empty one is linear.
* `Linear.existsUnique_holder`, `Linear.count_of_drained` — an outstanding resource has exactly one
  holder, and once nobody holds anything every issued resource has been retired exactly once.
-/

set_option autoImplicit false

namespace LinearOwnership

open Function

universe u v

/-- Who holds which resource, the resources ever issued, and the resources retired. -/
structure Registry (H : Type u) (R : Type v) where
  holds : H → Option R
  issued : Set R
  retired : Multiset R

variable {H : Type u} {R : Type v}

/-- Nothing issued yet. -/
def Registry.empty : Registry H R := ⟨fun _ => none, ∅, 0⟩

variable [DecidableEq H]

/-- The life of a resource: issue, hand over, retire. -/
inductive Step : Registry H R → Registry H R → Prop
  | issue {g : Registry H R} {h : H} {r : R} (hidle : g.holds h = none) (hnew : r ∉ g.issued) :
      Step g ⟨update g.holds h (some r), insert r g.issued, g.retired⟩
  | transfer {g : Registry H R} {src dst : H} {r : R} (hsrc : g.holds src = some r)
      (hdst : g.holds dst = none) :
      Step g ⟨update (update g.holds src none) dst (some r), g.issued, g.retired⟩
  | retire {g : Registry H R} {h : H} {r : R} (hheld : g.holds h = some r) :
      Step g ⟨update g.holds h none, g.issued, r ::ₘ g.retired⟩

/-! ## Holders that may have nothing

The operations of a program work on holders that may or may not have a resource.  Each of them is a path of
at most one step. -/

section Paths

variable {g : Registry H R}

/-- Taking what an idle holder has changes nothing. -/
theorem update_idle {holds : H → Option R} {h : H} (hidle : holds h = none) :
    update holds h none = holds := by
  rw [← hidle]
  exact update_eq_self _ _

/-- Issuing a resource, or none, to an idle holder. -/
theorem steps_issue {h : H} {new : Option R} (hidle : g.holds h = none)
    (hnew : ∀ r, new = some r → r ∉ g.issued) :
    Relation.ReflTransGen Step g
      ⟨update g.holds h new, {r | new = some r ∨ r ∈ g.issued}, g.retired⟩ := by
  cases new with
  | none =>
      have hissued : {r | none = some r ∨ r ∈ g.issued} = g.issued := by
        ext r
        simp
      rw [update_idle hidle, hissued]
  | some r =>
      have hissued : {r' | some r = some r' ∨ r' ∈ g.issued} = insert r g.issued := by
        ext r'
        simp [eq_comm]
      rw [hissued]
      exact .single (.issue hidle (hnew r rfl))

/-- Retiring what a holder has, if it has anything. -/
theorem steps_release {h : H} {held : Option R} (hheld : g.holds h = held) :
    Relation.ReflTransGen Step g
      ⟨update g.holds h none, g.issued, Multiset.ofList held.toList + g.retired⟩ := by
  cases held with
  | none => rw [update_idle hheld, Option.toList_none, Multiset.coe_nil, Multiset.zero_add]
  | some r => exact .single (.retire hheld)

/-- Handing over what the source has, if it has anything, to an idle target. -/
theorem steps_handOver {src dst : H} {held : Option R} (hsrc : g.holds src = held)
    (hdst : g.holds dst = none) :
    Relation.ReflTransGen Step g
      ⟨update (update g.holds src none) dst held, g.issued, g.retired⟩ := by
  cases held with
  | none => rw [update_idle hsrc, update_idle hdst]
  | some r => exact .single (.transfer hsrc hdst)

end Paths

/-! ## The invariant -/

/-- The invariant of a linear registry. -/
structure Linear (g : Registry H R) : Prop where
  unique : ∀ h h' r, g.holds h = some r → g.holds h' = some r → h = h'
  outstanding : ∀ h r, g.holds h = some r → r ∈ g.issued ∧ r ∉ g.retired
  accounted : ∀ r ∈ g.issued, r ∉ g.retired → ∃ h, g.holds h = some r
  retired_issued : ∀ r ∈ g.retired, r ∈ g.issued
  nodup : g.retired.Nodup

omit [DecidableEq H] in
theorem linear_empty : Linear (Registry.empty : Registry H R) where
  unique := by simp [Registry.empty]
  outstanding := by simp [Registry.empty]
  accounted := by simp [Registry.empty]
  retired_issued := by simp [Registry.empty]
  nodup := by simp [Registry.empty]

theorem linear_issue {g : Registry H R} (hlin : Linear g) {h : H} {r : R} (hidle : g.holds h = none)
    (hnew : r ∉ g.issued) :
    Linear (⟨update g.holds h (some r), insert r g.issued, g.retired⟩ : Registry H R) := by
  -- what was never issued is held by nobody
  have hfresh : ∀ k, g.holds k ≠ some r := fun k hk => hnew (hlin.outstanding k r hk).1
  refine ⟨fun k k' q hk hk' => ?_, fun k q hk => ?_, fun q hq hret => ?_, fun q hq => ?_, hlin.nodup⟩
  · simp only [update_apply] at hk hk'
    split at hk <;> split at hk'
    · next h₁ h₂ => rw [h₁, h₂]
    · cases hk
      exact absurd hk' (hfresh k')
    · cases hk'
      exact absurd hk (hfresh k)
    · exact hlin.unique k k' q hk hk'
  · simp only [update_apply] at hk
    split at hk
    · cases hk
      exact ⟨Set.mem_insert r _, fun hret => hnew (hlin.retired_issued r hret)⟩
    · obtain ⟨hiss, hret⟩ := hlin.outstanding k q hk
      exact ⟨Set.mem_insert_of_mem r hiss, hret⟩
  · rcases Set.mem_insert_iff.mp hq with rfl | hiss
    · exact ⟨h, by simp⟩
    · obtain ⟨k, hk⟩ := hlin.accounted q hiss hret
      have hkh : k ≠ h := by
        rintro rfl
        simp [hidle] at hk
      exact ⟨k, by simp [update_of_ne hkh, hk]⟩
  · exact Set.mem_insert_of_mem r (hlin.retired_issued q hq)

theorem linear_transfer {g : Registry H R} (hlin : Linear g) {src dst : H} {r : R}
    (hsrc : g.holds src = some r) (hdst : g.holds dst = none) :
    Linear (⟨update (update g.holds src none) dst (some r), g.issued, g.retired⟩ :
      Registry H R) := by
  have hne : dst ≠ src := by
    rintro rfl
    simp [hdst] at hsrc
  -- a holder after the hand-over held the same resource before, `dst` in the place of `src`
  have hback : ∀ k q, update (update g.holds src none) dst (some r) k = some q →
      (k = dst ∧ q = r) ∨ (k ≠ dst ∧ k ≠ src ∧ g.holds k = some q) := by
    intro k q hk
    simp only [update_apply] at hk
    split at hk
    · next hkd => exact .inl ⟨hkd, (Option.some.inj hk).symm⟩
    · next hkd =>
        split at hk
        · cases hk
        · next hks => exact .inr ⟨hkd, hks, hk⟩
  refine ⟨fun k k' q hk hk' => ?_, fun k q hk => ?_, fun q hq hret => ?_, hlin.retired_issued,
    hlin.nodup⟩
  · -- two holders of one resource: each is the target, or held it before
    rcases hback k q hk with ⟨rfl, rfl⟩ | ⟨-, hks, hkq⟩
    · rcases hback k' q hk' with ⟨rfl, -⟩ | ⟨-, hks', hkq'⟩
      · rfl
      · exact absurd (hlin.unique _ _ _ hkq' hsrc) hks'
    · rcases hback k' q hk' with ⟨rfl, rfl⟩ | ⟨-, -, hkq'⟩
      · exact absurd (hlin.unique _ _ _ hkq hsrc) hks
      · exact hlin.unique _ _ _ hkq hkq'
  · rcases hback k q hk with ⟨rfl, rfl⟩ | ⟨-, -, hkq⟩
    · exact hlin.outstanding src q hsrc
    · exact hlin.outstanding k q hkq
  · obtain ⟨k, hk⟩ := hlin.accounted q hq hret
    by_cases hks : k = src
    · subst hks
      rw [hsrc] at hk
      cases hk
      exact ⟨dst, by simp⟩
    · have hkd : k ≠ dst := by
        rintro rfl
        simp [hdst] at hk
      exact ⟨k, by simp [update_of_ne hkd, update_of_ne hks, hk]⟩

theorem linear_retire {g : Registry H R} (hlin : Linear g) {h : H} {r : R}
    (hheld : g.holds h = some r) :
    Linear (⟨update g.holds h none, g.issued, r ::ₘ g.retired⟩ : Registry H R) := by
  have hback : ∀ k q, update g.holds h none k = some q → k ≠ h ∧ g.holds k = some q := by
    intro k q hk
    simp only [update_apply] at hk
    split at hk
    · cases hk
    · next hkh => exact ⟨hkh, hk⟩
  obtain ⟨hiss, hret⟩ := hlin.outstanding h r hheld
  refine ⟨fun k k' q hk hk' => ?_, fun k q hk => ?_, fun q hq hnot => ?_, fun q hq => ?_, ?_⟩
  · exact hlin.unique k k' q (hback k q hk).2 (hback k' q hk').2
  · obtain ⟨hkh, hkq⟩ := hback k q hk
    refine ⟨(hlin.outstanding k q hkq).1, fun hmem => ?_⟩
    rcases Multiset.mem_cons.mp hmem with rfl | hmem
    · exact hkh (hlin.unique k h q hkq hheld)
    · exact (hlin.outstanding k q hkq).2 hmem
  · rw [Multiset.mem_cons, not_or] at hnot
    obtain ⟨k, hk⟩ := hlin.accounted q hq hnot.2
    have hkh : k ≠ h := by
      rintro rfl
      rw [hheld] at hk
      exact hnot.1 (Option.some.inj hk).symm
    exact ⟨k, by simp [update_of_ne hkh, hk]⟩
  · rcases Multiset.mem_cons.mp hq with rfl | hmem
    · exact hiss
    · exact hlin.retired_issued q hmem
  · exact Multiset.nodup_cons.mpr ⟨hret, hlin.nodup⟩

theorem linear_step {g g' : Registry H R} (hlin : Linear g) (hstep : Step g g') : Linear g' := by
  cases hstep with
  | issue hidle hnew => exact linear_issue hlin hidle hnew
  | transfer hsrc hdst => exact linear_transfer hlin hsrc hdst
  | retire hheld => exact linear_retire hlin hheld

/-- Every registry reached from a linear one is linear. -/
theorem linear_of_steps {g g' : Registry H R} (hlin : Linear g)
    (hsteps : Relation.ReflTransGen Step g g') : Linear g' := by
  induction hsteps with
  | refl => exact hlin
  | tail _ hstep ih => exact linear_step ih hstep

omit [DecidableEq H] in
/-- An outstanding resource has exactly one holder. -/
theorem Linear.existsUnique_holder {g : Registry H R} (hlin : Linear g) {r : R}
    (hissued : r ∈ g.issued) (hout : r ∉ g.retired) : ∃! h, g.holds h = some r := by
  obtain ⟨h, hh⟩ := hlin.accounted r hissued hout
  exact ⟨h, hh, fun k hk => hlin.unique k h r hk hh⟩

omit [DecidableEq H] in
/-- Once nobody holds anything, every issued resource has been retired exactly once. -/
theorem Linear.count_of_drained [DecidableEq R] {g : Registry H R} (hlin : Linear g)
    (hdrained : ∀ h, g.holds h = none) {r : R} (hissued : r ∈ g.issued) :
    g.retired.count r = 1 := by
  have hmem : r ∈ g.retired := by
    by_contra hout
    obtain ⟨h, hh⟩ := hlin.accounted r hissued hout
    simp [hdrained h] at hh
  exact Multiset.count_eq_one_of_mem hlin.nodup hmem

end LinearOwnership

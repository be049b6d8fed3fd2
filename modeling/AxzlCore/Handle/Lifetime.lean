import AxzlCore.Handle.Ownership

/-!
# The life of one handle

A handle is constructed once and destroyed once, and nothing in between changes its flags.  The calls of a
destructor are recorded here one by one, so that it can be said how often it destroys its object.

* `Handle.destruct_eq_calls` — the calls account for all a destructor does.
* `dtorCalls_of_run` — in a run that ends with an object gone, its destructor made its calls once, and they
  are those of the handle its construction returned.
-/

set_option autoImplicit false

namespace AxzlCore

open Function Runs

/-! ## The calls of a destructor -/

/-- What a destructor calls. -/
inductive DtorCall
  /-- `pthread_mutex_destroy` or `pthread_cond_destroy`. -/
  | objectDestroy (ptr : Addr)
  | delete (ptr : Addr)
  deriving DecidableEq, Repr

def DtorCall.perform (l : Ledger) : DtorCall → Ledger
  | .objectDestroy ptr => l.objectDestroy ptr
  | .delete ptr => l.delete ptr

/-- The calls of the common destructor, in order. -/
def dtorCalls (ptr : Addr) (mValid mShared mSharedCleanup : Bool) : List DtorCall :=
  (if mValid then if !mShared || (mShared && mSharedCleanup) then [.objectDestroy ptr] else [] else []) ++
    if !mShared && ptr ≠ .null then [.delete ptr] else []

/-- The calls of the destructor of a handle. -/
def Handle.dtorCalls : Handle → List DtorCall
  | .mutex m => AxzlCore.dtorCalls m.mMutex m.mValid m.mShared m.mSharedCleanup
  | .cond cv => AxzlCore.dtorCalls cv.mCv cv.mValid cv.mShared cv.mSharedCleanup

theorem destructHandle_eq_calls (ptr : Addr) (mValid mShared mSharedCleanup : Bool) (l : Ledger) :
    destructHandle ptr mValid mShared mSharedCleanup l =
      (dtorCalls ptr mValid mShared mSharedCleanup).foldl DtorCall.perform l := by
  unfold destructHandle dtorCalls
  cases mValid <;> cases mShared <;> cases mSharedCleanup <;> by_cases hnull : ptr = .null <;>
    simp [hnull, DtorCall.perform]

/-- A destructor does to the ledger what its calls do, and nothing else. -/
theorem Handle.destruct_eq_calls (h : Handle) (l : Ledger) :
    h.destruct l = h.dtorCalls.foldl DtorCall.perform l := by
  cases h with
  | mutex m => exact destructHandle_eq_calls _ _ _ _ l
  | cond cv => exact destructHandle_eq_calls _ _ _ _ l

/-- How often an initialised handle destroys its object. -/
theorem count_dtorCalls (ptr : Addr) (mShared mSharedCleanup : Bool) :
    (dtorCalls ptr true mShared mSharedCleanup).count (.objectDestroy ptr) =
      if mShared = false ∨ mSharedCleanup = true then 1 else 0 := by
  unfold dtorCalls
  cases mShared <;> cases mSharedCleanup <;> by_cases hnull : ptr = .null <;> simp [hnull]

/-! ## The life of one object -/

variable {O : Type} [DecidableEq O]

/-- The calls made by the destructor of one object in a transition. -/
def dtorCallsIn (o : O) (tr : Transition (Store O) (StoreAction O)) : List DtorCall :=
  match tr.act with
  | .construct _ _ => []
  | .destroy o' =>
      if o' = o then
        match tr.pre.slot o with
        | .live h _ _ => h.dtorCalls
        | _ => []
      else []

/-- The calls made by the destructor of one object over a run. -/
def dtorCallsOf (o : O) (trs : List (Transition (Store O) (StoreAction O))) : List DtorCall :=
  trs.flatMap (dtorCallsIn o)

theorem dtorCallsOf_cons (o : O) (tr : Transition (Store O) (StoreAction O))
    (trs : List (Transition (Store O) (StoreAction O))) :
    dtorCallsOf o (tr :: trs) = dtorCallsIn o tr ++ dtorCallsOf o trs := List.flatMap_cons

/-- Which object an action is about. -/
def StoreAction.object : StoreAction O → O
  | .construct o _ | .destroy o => o

/-- What a step does to one object. -/
theorem StoreStep.at_object {s s' : Store O} {a : StoreAction O} (hstep : StoreStep s a s') (o : O) :
    (∃ c h block, a = .construct o c ∧ s.slot o = .unborn ∧ c.run s.ledger = .ok h s'.ledger ∧
        s'.slot o = .live h c block) ∨
      (∃ h c block, a = .destroy o ∧ s.slot o = .live h c block ∧ s'.slot o = .gone) ∨
      (a.object ≠ o ∧ s'.slot o = s.slot o) := by
  cases hstep with
  | @construct o' c h l hslot hbuild =>
      by_cases ho : o' = o
      · subst ho
        exact .inl ⟨c, h, _, rfl, hslot, hbuild, update_self _ _ _⟩
      · exact .inr (.inr ⟨ho, update_of_ne (Ne.symm ho) _ _⟩)
  | @destroy o' h c block hslot =>
      by_cases ho : o' = o
      · subst ho
        exact .inr (.inl ⟨h, c, block, rfl, hslot, update_self _ _ _⟩)
      · exact .inr (.inr ⟨ho, update_of_ne (Ne.symm ho) _ _⟩)

theorem dtorCallsIn_of_ne {o : O} {tr : Transition (Store O) (StoreAction O)} (ho : tr.act.object ≠ o) :
    dtorCallsIn o tr = [] := by
  obtain ⟨pre, act, post⟩ := tr
  cases act with
  | construct o' c => rfl
  | destroy o' => exact if_neg ho

/-- An object that is gone is neither constructed nor destroyed again. -/
theorem run_of_gone {s₀ s : Store O} {trs : List (Transition (Store O) (StoreAction O))}
    (hrun : Run StoreStep s₀ trs s) {o : O} (hslot : s₀.slot o = .gone) :
    dtorCallsOf o trs = [] ∧ ∀ tr ∈ trs, tr.act.object ≠ o := by
  induction hrun with
  | nil s => exact ⟨rfl, by simp⟩
  | @cons s s' s'' a trs hstep hrest ih =>
      rcases hstep.at_object o with ⟨c, h, b, -, hborn, -⟩ | ⟨h, c, b, -, hlive, -⟩ | ⟨ho, hsame⟩
      · rw [hslot] at hborn
        cases hborn
      · rw [hslot] at hlive
        cases hlive
      · obtain ⟨hcalls, hothers⟩ := ih (hsame.trans hslot)
        refine ⟨?_, List.forall_mem_cons.mpr ⟨ho, hothers⟩⟩
        rw [dtorCallsOf_cons, hcalls, dtorCallsIn_of_ne ho, List.nil_append]

/-- A live object that is gone at the end was destroyed once, by the destructor of its handle. -/
theorem run_of_live {s₀ s : Store O} {trs : List (Transition (Store O) (StoreAction O))}
    (hrun : Run StoreStep s₀ trs s) {o : O} {h : Handle} {c : Construction} {block : Option Nat}
    (hslot : s₀.slot o = .live h c block) (hgone : s.slot o = .gone) :
    dtorCallsOf o trs = h.dtorCalls ∧ ∀ tr ∈ trs, ∀ c', tr.act ≠ .construct o c' := by
  induction hrun with
  | nil s =>
      rw [hslot] at hgone
      cases hgone
  | @cons s s' s'' a trs hstep hrest ih =>
      rcases hstep.at_object o with
        ⟨c', h', b, -, hborn, -⟩ | ⟨h', c', b, rfl, hlive, hdied⟩ | ⟨ho, hsame⟩
      · rw [hslot] at hborn
        cases hborn
      · obtain ⟨rfl, rfl, rfl⟩ := Slot.live.inj (hslot.symm.trans hlive)
        obtain ⟨hcalls, hothers⟩ := run_of_gone hrest hdied
        have hfirst : dtorCallsIn o ⟨s, .destroy o, s'⟩ = h.dtorCalls := by
          simp [dtorCallsIn, hslot]
        refine ⟨?_, List.forall_mem_cons.mpr ⟨?_, fun tr htr c' hact => ?_⟩⟩
        · rw [dtorCallsOf_cons, hcalls, hfirst, List.append_nil]
        · intro c' hact
          cases hact
        · exact hothers tr htr (congrArg StoreAction.object hact)
      · obtain ⟨hcalls, hothers⟩ := ih (hsame.trans hslot) hgone
        refine ⟨?_, List.forall_mem_cons.mpr ⟨?_, hothers⟩⟩
        · rw [dtorCallsOf_cons, hcalls, dtorCallsIn_of_ne ho, List.nil_append]
        · exact fun c' hact => ho (congrArg StoreAction.object hact)

/-- **One life.**  In a run that ends with an object gone, its destructor made its calls once, and they are
those of the handle its construction returned. -/
theorem dtorCalls_of_run {s₀ s : Store O} {trs : List (Transition (Store O) (StoreAction O))}
    (hrun : Run StoreStep s₀ trs s) {o : O} (hgone : s.slot o = .gone)
    {tr : Transition (Store O) (StoreAction O)} (htr : tr ∈ trs) {c : Construction}
    (hact : tr.act = .construct o c) :
    ∃ h, c.run tr.pre.ledger = .ok h tr.post.ledger ∧ dtorCallsOf o trs = h.dtorCalls := by
  induction hrun with
  | nil s => simp at htr
  | @cons s s' s'' a trs hstep hrest ih =>
      rcases hstep.at_object o with
        ⟨c', h', b, rfl, hborn, hbuild, hlive⟩ | ⟨h', c', b, rfl, hlive, hdied⟩ | ⟨ho, hsame⟩
      · obtain ⟨hcalls, hothers⟩ := run_of_live hrest hlive hgone
        rcases List.mem_cons.mp htr with rfl | hmem
        · cases hact
          refine ⟨h', hbuild, ?_⟩
          rw [dtorCallsOf_cons, hcalls]
          rfl
        · exact absurd hact (hothers tr hmem c)
      · -- once gone, it is not constructed any more
        rcases List.mem_cons.mp htr with rfl | hmem
        · cases hact
        · exact absurd (congrArg StoreAction.object hact) ((run_of_gone hrest hdied).2 tr hmem)
      · rcases List.mem_cons.mp htr with rfl | hmem
        · exact absurd (congrArg StoreAction.object hact) ho
        · obtain ⟨h, hbuild, hcalls⟩ := ih hgone hmem
          refine ⟨h, hbuild, ?_⟩
          rw [dtorCallsOf_cons, hcalls, dtorCallsIn_of_ne ho, List.nil_append]

end AxzlCore

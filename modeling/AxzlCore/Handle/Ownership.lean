import AxzlCore.Handle.Store
import AxzlCore.Library.LinearOwnership

/-!
# Who owns the storage of a pthread object

* `registry_step` — as long as storage kind, creation and sharing line up for the handles destroyed, the
  store is a linear registry of heap blocks: a construction issues its block, the destructor retires it.
* `storage_owned_iff` — every destructor of a run deletes exactly what its own constructor allocated, with
  all that follows for the heap as a whole, if and only if they line up for every handle destroyed.
-/

set_option autoImplicit false

namespace AxzlCore

open Function LinearOwnership Runs

variable {O : Type} [DecidableEq O]

/-- The block a live handle owns. -/
def Slot.block : Slot → Option Nat
  | .live _ _ block => block
  | .unborn | .gone => none

/-- The block a pointer points to. -/
def Addr.block : Addr → Option Nat
  | .heap b => some b
  | _ => none

/-- The store as a registry: handles hold the blocks they allocated, and deleting retires. -/
def Store.registry (s : Store O) : Registry O Nat where
  holds := Slot.block ∘ s.slot
  issued := {b | b < s.ledger.next}
  retired := Multiset.ofList (s.ledger.deleted.filterMap Addr.block)

/-- What the heap as a whole looks like when storage is owned properly. -/
structure StorageOwned (s : Store O) : Prop where
  /-- Only blocks obtained by `new` are deleted: never memory of the caller. -/
  only_blocks : ∀ ptr ∈ s.ledger.deleted, ∃ b, ptr = .heap b
  /-- No block is deleted twice. -/
  once : s.ledger.deleted.Nodup
  /-- Once all handles are gone every block has been deleted. -/
  all : (∀ o h c block, s.slot o ≠ .live h c block) →
    s.ledger.blocks = [] ∧ ∀ b < s.ledger.next, .heap b ∈ s.ledger.deleted

/-! ## The store is a linear registry -/

/-- Only heap blocks have been deleted so far. -/
def OnlyBlocks (s : Store O) : Prop := ∀ ptr ∈ s.ledger.deleted, ∃ b, ptr = .heap b

omit [DecidableEq O] in
/-- The deletions of a matching destruction. -/
theorem destroy_deleted {s : Store O} (hsound : SoundStore s) {o : O} {h : Handle} {c : Construction}
    {block : Option Nat} (hslot : s.slot o = .live h c block) (hmatch : c.StorageMatches) :
    (h.destruct s.ledger).deleted = ownPtr block ++ s.ledger.deleted :=
  (deletesOwn_iff (hsound.recorded o h c block hslot) s.ledger).mpr hmatch

theorem onlyBlocks_step {s s' : Store O} {a : StoreAction O} (hsound : SoundStore s)
    (honly : OnlyBlocks s) (hok : DestroysMatching s a) (hstep : StoreStep s a s') :
    OnlyBlocks s' := by
  cases hstep with
  | @construct o c h l hslot hbuild =>
      intro ptr hptr
      change ptr ∈ l.deleted at hptr
      rw [construct_deleted hbuild] at hptr
      exact honly ptr hptr
  | @destroy o h c block hslot =>
      intro ptr hptr
      change ptr ∈ (h.destruct s.ledger).deleted at hptr
      rw [destroy_deleted hsound hslot (hok h c block hslot)] at hptr
      rcases List.mem_append.mp hptr with hown | hmem
      · cases block with
        | none => simp [ownPtr] at hown
        | some b => exact ⟨b, by simpa [ownPtr] using hown⟩
      · exact honly ptr hmem

/-- The registry after the place of one object changed. -/
theorem registry_update (s : Store O) (l : Ledger) (o : O) (v : Slot) :
    (⟨l, update s.slot o v⟩ : Store O).registry =
      ⟨update s.registry.holds o v.block, {b | b < l.next},
        Multiset.ofList (l.deleted.filterMap Addr.block)⟩ := by
  have hholds : Slot.block ∘ update s.slot o v = update (Slot.block ∘ s.slot) o v.block :=
    comp_update _ _ _ _
  unfold Store.registry
  rw [hholds]

/-- A construction issues the block it allocated, if it allocated one. -/
theorem registry_construct {s : Store O} {o : O} {c : Construction} {h : Handle} {l : Ledger}
    (hslot : s.slot o = .unborn) (hbuild : c.run s.ledger = .ok h l) :
    Relation.ReflTransGen LinearOwnership.Step s.registry
      (⟨l, update s.slot o (.live h c (newBlock s.ledger l))⟩ : Store O).registry := by
  have hres := Construction.run_ok hbuild
  have hidle : s.registry.holds o = none := by
    simp [Store.registry, hslot, Slot.block]
  have hissued :
      {b | b < l.next} = {b | newBlock s.ledger l = some b ∨ b ∈ s.registry.issued} := by
    ext b
    show b < l.next ↔ newBlock s.ledger l = some b ∨ b < s.ledger.next
    rw [hres.storage.next]
    cases halloc : c.allocates with
    | true =>
        rw [if_pos rfl, newBlock_of_allocates hres halloc, Option.some_inj]
        show b < s.ledger.next + 1 ↔ _
        omega
    | false =>
        rw [newBlock_of_supplied hres halloc]
        simp
  have hfresh : ∀ b, newBlock s.ledger l = some b → b ∉ s.registry.issued := by
    intro b hb
    unfold newBlock at hb
    split at hb
    · cases hb
    · cases hb
      exact Nat.lt_irrefl _
  rw [registry_update, construct_deleted hbuild, hissued]
  exact steps_issue hidle hfresh

/-- A matching destruction retires the block of the handle, if it has one. -/
theorem registry_destroy {s : Store O} (hsound : SoundStore s) {o : O} {h : Handle}
    {c : Construction} {block : Option Nat} (hslot : s.slot o = .live h c block)
    (hmatch : c.StorageMatches) :
    Relation.ReflTransGen LinearOwnership.Step s.registry
      (⟨h.destruct s.ledger, update s.slot o .gone⟩ : Store O).registry := by
  have hheld : s.registry.holds o = block := by
    simp [Store.registry, hslot, Slot.block]
  have hretired : Multiset.ofList ((ownPtr block ++ s.ledger.deleted).filterMap Addr.block) =
      Multiset.ofList block.toList + s.registry.retired := by
    rw [List.filterMap_append, ← Multiset.coe_add]
    cases block <;> rfl
  rw [registry_update, destruct_next, destroy_deleted hsound hslot hmatch, hretired]
  exact steps_release hheld

/-- **Refinement.**  The store takes the steps of a linear registry of blocks. -/
theorem registry_step {s s' : Store O} {a : StoreAction O} (hsound : SoundStore s)
    (hok : DestroysMatching s a) (hstep : StoreStep s a s') :
    Relation.ReflTransGen LinearOwnership.Step s.registry s'.registry := by
  cases hstep with
  | construct hslot hbuild => exact registry_construct hslot hbuild
  | @destroy o h c block hslot => exact registry_destroy hsound hslot (hok h c block hslot)

/-! ## Runs -/

omit [DecidableEq O] in
theorem registry_init : (Store.init : Store O).registry = Registry.empty := by
  unfold Store.registry Registry.empty
  congr 1
  ext b
  simp [Store.init, Ledger.empty]

omit [DecidableEq O] in
/-- A linear registry whose deletions are all of blocks is a properly owned store. -/
theorem storageOwned_of_linear {s : Store O} (hsound : SoundStore s) (honly : OnlyBlocks s)
    (hlin : Linear s.registry) : StorageOwned s := by
  have hmem : ∀ b, b ∈ s.registry.retired ↔ .heap b ∈ s.ledger.deleted := by
    intro b
    unfold Store.registry
    rw [Multiset.mem_coe, List.mem_filterMap]
    constructor
    · rintro ⟨ptr, hptr, hblock⟩
      obtain ⟨b', rfl⟩ := honly ptr hptr
      cases hblock
      exact hptr
    · intro hptr
      exact ⟨.heap b, hptr, rfl⟩
  refine ⟨honly, ?_, fun hgone => ?_⟩
  · -- a deletion is determined by its block, and no block is retired twice
    have hblocks : s.ledger.deleted = (s.ledger.deleted.filterMap Addr.block).map Addr.heap := by
      unfold OnlyBlocks at honly
      generalize s.ledger.deleted = ptrs at honly
      induction ptrs with
      | nil => rfl
      | cons ptr ptrs ih =>
          obtain ⟨b, rfl⟩ := honly ptr List.mem_cons_self
          have hrest := ih fun q hq => honly q (List.mem_cons_of_mem _ hq)
          rw [List.filterMap_cons_some (by rfl), List.map_cons, ← hrest]
    rw [hblocks]
    exact (Multiset.coe_nodup.mp hlin.nodup).map fun b b' heq => Addr.heap.inj heq
  · -- with nobody left to hold a block, every block issued has been retired
    have hdrained : ∀ o, s.registry.holds o = none := by
      intro o
      show (s.slot o).block = none
      cases hslot : s.slot o with
      | unborn => rfl
      | live h c block => exact absurd hslot (hgone o h c block)
      | gone => rfl
    have hall : ∀ b < s.ledger.next, .heap b ∈ s.ledger.deleted := by
      intro b hb
      by_contra hout
      obtain ⟨o, ho⟩ := hlin.accounted b hb fun hret => hout ((hmem b).mp hret)
      rw [hdrained o] at ho
      cases ho
    refine ⟨List.eq_nil_iff_forall_not_mem.mpr fun b hb => ?_, hall⟩
    obtain ⟨hlt, hout⟩ := hsound.outstanding b hb
    exact hout (hall b hlt)

/-- **Exactly when storage is owned properly.**  In a run from an empty store, the destructors delete
exactly what their own constructors allocated, no memory of the caller is ever deleted, no block is
deleted twice and none is left over once all handles are gone, if and only if storage kind, creation and
sharing line up for every handle destroyed. -/
theorem storage_owned_iff {trs : List (Transition (Store O) (StoreAction O))} {s : Store O}
    (hrun : Run StoreStep Store.init trs s) :
    ((∀ tr ∈ trs, DeletesOwn tr) ∧ StorageOwned s) ↔
      ∀ tr ∈ trs, DestroysMatching tr.pre tr.act := by
  have hsound := hrun.invariant (fun _ _ _ h hstep => sound_step h hstep) soundStore_init
  have hiff : (∀ tr ∈ trs, DeletesOwn tr) ↔ ∀ tr ∈ trs, DestroysMatching tr.pre tr.act := by
    refine hrun.forall_iff fun tr htr hstep => ?_
    have hpre := (hsound.2 tr htr).1
    obtain ⟨pre, act, post⟩ := tr
    change StoreStep pre act post at hstep
    cases hstep with
    | construct hslot hbuild => exact Iff.rfl
    | @destroy o h c block hslot =>
        have hone := deletesOwn_iff (hpre.recorded o h c block hslot) pre.ledger
        constructor
        · intro hdel h' c' block' hslot'
          obtain ⟨rfl, rfl, rfl⟩ := Slot.live.inj (hslot.symm.trans hslot')
          exact hone.mp (hdel h c block hslot)
        · intro hmatch h' c' block' hslot'
          obtain ⟨rfl, rfl, rfl⟩ := Slot.live.inj (hslot.symm.trans hslot')
          exact hone.mpr (hmatch h c block hslot)
  refine ⟨fun h => hiff.mp h.1, fun hok => ⟨hiff.mpr hok, ?_⟩⟩
  have hkeep : ∀ (s : Store O) a s', SoundStore s ∧ OnlyBlocks s → DestroysMatching s a →
      StoreStep s a s' → SoundStore s' ∧ OnlyBlocks s' := fun s a s' h hmatch hstep =>
    ⟨sound_step h.1 hstep, onlyBlocks_step h.1 h.2 hmatch hstep⟩
  have honly : OnlyBlocks s :=
    (hrun.guarded_invariant DestroysMatching hkeep hok ⟨soundStore_init, by simp [OnlyBlocks,
      Store.init, Ledger.empty]⟩).1.2
  have hsteps := hrun.simulation SoundStore DestroysMatching
    (fun _ _ _ h _ hstep => sound_step h hstep)
    (fun _ _ _ h hmatch hstep => registry_step h hmatch hstep) hok soundStore_init
  rw [registry_init] at hsteps
  exact storageOwned_of_linear hsound.1 honly (linear_of_steps linear_empty hsteps)

/-! ## The life of one handle -/

/-- The store after handle `h` of object `o` was constructed by `c`, leaving the ledger `l`. -/
def Store.born (s : Store O) (o : O) (c : Construction) (h : Handle) (l : Ledger) : Store O :=
  ⟨l, update s.slot o (.live h c (newBlock s.ledger l))⟩

/-- The store after the handle `h` of object `o` was destroyed. -/
def Store.died (s : Store O) (o : O) (h : Handle) : Store O :=
  ⟨h.destruct s.ledger, update s.slot o .gone⟩

/-- A handle is constructed and destroyed, with nothing in between. -/
theorem run_life {s : Store O} {o : O} {c : Construction} {h : Handle} {l : Ledger}
    (hslot : s.slot o = .unborn) (hbuild : c.run s.ledger = .ok h l) :
    Run StoreStep s
      [⟨s, .construct o c, s.born o c h l⟩, ⟨s.born o c h l, .destroy o, (s.born o c h l).died o h⟩]
      ((s.born o c h l).died o h) := by
  have hlive : (s.born o c h l).slot o = .live h c (newBlock s.ledger l) := update_self _ _ _
  exact .cons (.construct hslot hbuild) (.single (.destroy hlive))

/-- The life of a private mutex on the heap. -/
theorem storage_owned_private_mutex :
    ∃ trs s, Run StoreStep (Store.init : Store Unit) trs s ∧ s.ledger.deleted = [.heap 0] ∧
      (∀ tr ∈ trs, DeletesOwn tr) ∧ StorageOwned s := by
  have hbuild : (Construction.mutex (fun _ => 0) "mtx" none (.heap {})).run Ledger.empty =
      .ok (.mutex ((Mutex.named "mtx" none (.heap 0)).initialised {})) _ := rfl
  have hrun := run_life (s := (Store.init : Store Unit)) (o := ()) rfl hbuild
  have hmatch : (Construction.mutex (fun _ => 0) "mtx" none (.heap {})).StorageMatches := by
    simp [Construction.StorageMatches, Maker.StorageMatches, PTHREAD_PROCESS_PRIVATE,
      PTHREAD_PROCESS_SHARED]
  refine ⟨_, _, hrun, rfl, (storage_owned_iff hrun).mpr fun tr htr => ?_⟩
  rcases List.mem_cons.mp htr with rfl | hlast
  · trivial
  · rw [List.mem_singleton.mp hlast]
    intro h c block hslot
    obtain ⟨-, rfl, -⟩ := Slot.live.inj hslot
    exact hmatch

/-- A process opens a shared mutex and destroys its handle: the shared memory is passed to `delete`. -/
theorem opened_handle_deletes_caller_memory :
    ∃ trs s, Run StoreStep (Store.init : Store Unit) trs s ∧ s.ledger.deleted = [.caller 7] ∧
      ¬ ((∀ tr ∈ trs, DeletesOwn tr) ∧ StorageOwned s) := by
  have hbuild : (Construction.mutex (fun _ => 0) "mtx" none (.openShm (some 7) false)).run
      Ledger.empty = .ok (.mutex (Mutex.named "mtx" none (.caller 7))) _ := rfl
  have hrun := run_life (s := (Store.init : Store Unit)) (o := ()) rfl hbuild
  refine ⟨_, _, hrun, rfl, fun howned => ?_⟩
  obtain ⟨b, hb⟩ := howned.2.only_blocks (.caller 7) List.mem_cons_self
  cases hb

end AxzlCore

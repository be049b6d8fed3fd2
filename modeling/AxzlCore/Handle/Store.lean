import AxzlCore.Handle.Making
import AxzlCore.Library.Runs
import Mathlib.Data.List.Nodup

/-!
# Handles that come and go

The system behind the storage of pthread objects: any number of `Mutex` and `ConditionVariable` handles are
constructed and destroyed, in any order, on storage from `new` or on memory of the caller, which several
handles may share.

* `DeletesOwn` — a destructor passes its pointer to `delete` exactly when its own constructor obtained it
  by `new`; `deletesOwn_iff` — that is so exactly when storage kind, creation and sharing line up.
* `SoundStore` — the invariant: what is recorded for a live handle is right, and the blocks of the ledger
  are distinct, allocated and not deleted (`sound_step`).
-/

set_option autoImplicit false

namespace AxzlCore

open Function Runs

/-- The place of one object: not constructed yet, alive (with its handle, how it was constructed and the
block its constructor obtained by `new`), or destroyed. -/
inductive Slot
  | unborn
  | live (h : Handle) (c : Construction) (block : Option Nat)
  | gone

/-- The ledger and the handles on it. -/
structure Store (O : Type) where
  ledger : Ledger
  slot : O → Slot

/-- No storage and no handles. -/
def Store.init {O : Type} : Store O := ⟨Ledger.empty, fun _ => .unborn⟩

inductive StoreAction (O : Type)
  | construct (o : O) (c : Construction)
  | destroy (o : O)

/-- The block obtained by `new` between two ledgers. -/
def newBlock (l l' : Ledger) : Option Nat := if l'.next = l.next then none else some l.next

variable {O : Type} [DecidableEq O]

/-- A successful construction, or the destruction of a live handle. -/
inductive StoreStep : Store O → StoreAction O → Store O → Prop
  | construct {s : Store O} {o : O} {c : Construction} {h : Handle} {l : Ledger}
      (hslot : s.slot o = .unborn) (hbuild : c.run s.ledger = .ok h l) :
      StoreStep s (.construct o c) ⟨l, update s.slot o (.live h c (newBlock s.ledger l))⟩
  | destroy {s : Store O} {o : O} {h : Handle} {c : Construction} {block : Option Nat}
      (hslot : s.slot o = .live h c block) :
      StoreStep s (.destroy o) ⟨h.destruct s.ledger, update s.slot o .gone⟩

/-- The pointer that owns a block, if there is one. -/
def ownPtr (block : Option Nat) : List Addr := (block.map Addr.heap).toList

/-- A destructor deletes exactly what its own constructor allocated. -/
def DeletesOwn (tr : Transition (Store O) (StoreAction O)) : Prop :=
  match tr.act with
  | .construct _ _ => True
  | .destroy o => ∀ h c block, tr.pre.slot o = .live h c block →
      tr.post.ledger.deleted = ownPtr block ++ tr.pre.ledger.deleted

/-- A handle is destroyed only if its storage kind, creation and sharing line up. -/
def DestroysMatching (s : Store O) : StoreAction O → Prop
  | .construct _ _ => True
  | .destroy o => ∀ h c block, s.slot o = .live h c block → c.StorageMatches

/-- What is recorded for a live handle: its pointer is the block its constructor allocated, if any, and the
destructor's test agrees with that exactly when storage lines up. -/
structure Recorded (h : Handle) (c : Construction) (block : Option Nat) : Prop where
  owned : ∀ b, h.ptr = .heap b ↔ block = some b
  matches_iff : c.StorageMatches ↔ ((h.shared = false ∧ h.ptr ≠ .null) ↔ block.isSome = true)

/-- The records of a store are right, and its ledger is consistent. -/
structure SoundStore (s : Store O) : Prop where
  recorded : ∀ o h c block, s.slot o = .live h c block → Recorded h c block
  issued : ∀ o h c b, s.slot o = .live h c (some b) → b < s.ledger.next
  deleted_lt : ∀ b, .heap b ∈ s.ledger.deleted → b < s.ledger.next
  nodup : s.ledger.blocks.Nodup
  outstanding : ∀ b ∈ s.ledger.blocks, b < s.ledger.next ∧ .heap b ∉ s.ledger.deleted

/-! ## One construction -/

section Construct

variable {c : Construction} {h : Handle} {l l' : Ledger}

theorem newBlock_of_allocates (hres : Construction.Result c l h l') (halloc : c.allocates = true) :
    newBlock l l' = some l.next := by
  have hnext := hres.storage.next
  rw [if_pos halloc] at hnext
  unfold newBlock
  rw [if_neg]
  rw [hnext]
  simp [Ledger.new]

theorem newBlock_of_supplied (hres : Construction.Result c l h l') (halloc : c.allocates = false) :
    newBlock l l' = none := by
  have hnext := hres.storage.next
  rw [if_neg (by simp [halloc])] at hnext
  unfold newBlock
  rw [if_pos hnext]

/-- Constructors delete nothing. -/
theorem construct_deleted (hbuild : c.run l = .ok h l') : l'.deleted = l.deleted := by
  rw [(Construction.run_ok hbuild).storage.deleted]
  split
  · rfl
  · rfl

theorem recorded_of_result (hres : Construction.Result c l h l') :
    Recorded h c (newBlock l l') := by
  have hiff := c.storageMatches_iff l.next
  rw [← hres.ptr, ← hres.shared] at hiff
  cases halloc : c.allocates with
  | true =>
      rw [newBlock_of_allocates hres halloc]
      refine ⟨fun b => ?_, by simpa [halloc] using hiff⟩
      rw [hres.ptr, Construction.ptr_of_allocates halloc]
      simp
  | false =>
      rw [newBlock_of_supplied hres halloc]
      refine ⟨fun b => ?_, by simpa [halloc] using hiff⟩
      rw [hres.ptr]
      simp [Construction.ptr_of_supplied halloc]

end Construct

/-! ## One destruction -/

section Destroy

variable {h : Handle} {c : Construction} {block : Option Nat}

theorem destruct_next (h : Handle) (l : Ledger) : (h.destruct l).next = l.next := by
  rw [(h.destruct_storage l).next]
  split
  · rfl
  · rfl

theorem destruct_deleted (h : Handle) (l : Ledger) :
    (h.destruct l).deleted =
      if h.shared = false ∧ h.ptr ≠ .null then h.ptr :: l.deleted else l.deleted := by
  rw [(h.destruct_storage l).deleted]
  split
  · rfl
  · rfl

/-- **A destructor deletes exactly its own allocation if and only if storage lines up.** -/
theorem deletesOwn_iff (hrec : Recorded h c block) (l : Ledger) :
    (h.destruct l).deleted = ownPtr block ++ l.deleted ↔ c.StorageMatches := by
  rw [destruct_deleted, hrec.matches_iff]
  cases block with
  | none =>
      by_cases hdel : h.shared = false ∧ h.ptr ≠ .null
      · rw [if_pos hdel]
        simp [ownPtr, hdel]
      · rw [if_neg hdel]
        simp only [ownPtr, hdel]
        simp
  | some b =>
      have hptr := (hrec.owned b).mpr rfl
      by_cases hdel : h.shared = false ∧ h.ptr ≠ .null
      · rw [if_pos hdel, hptr]
        simp [ownPtr, ← hptr, hdel]
      · rw [if_neg hdel]
        simp only [ownPtr, hdel]
        simp

end Destroy

/-! ## Soundness along a run -/

omit [DecidableEq O] in
theorem soundStore_init : SoundStore (Store.init : Store O) where
  recorded := by simp [Store.init]
  issued := by simp [Store.init]
  deleted_lt := by simp [Store.init, Ledger.empty]
  nodup := by simp [Store.init, Ledger.empty]
  outstanding := by simp [Store.init, Ledger.empty]

/-- The blocks in use stay distinct and undeleted when one more is allocated. -/
theorem blocks_new {l : Ledger} (hnodup : l.blocks.Nodup)
    (hout : ∀ b ∈ l.blocks, b < l.next ∧ .heap b ∉ l.deleted)
    (hdeleted : ∀ b, .heap b ∈ l.deleted → b < l.next) :
    l.new.blocks.Nodup ∧ ∀ b ∈ l.new.blocks, b < l.new.next ∧ .heap b ∉ l.new.deleted := by
  refine ⟨List.nodup_cons.mpr ⟨fun hmem => ?_, hnodup⟩, fun b hb => ?_⟩
  · have hlt := (hout _ hmem).1
    omega
  · rcases List.mem_cons.mp hb with rfl | hmem
    · exact ⟨Nat.lt_succ_self _, fun hdel => Nat.lt_irrefl _ (hdeleted _ hdel)⟩
    · exact ⟨Nat.lt_succ_of_lt (hout b hmem).1, (hout b hmem).2⟩

/-- They stay so when a pointer is deleted. -/
theorem blocks_delete {l : Ledger} (hnodup : l.blocks.Nodup)
    (hout : ∀ b ∈ l.blocks, b < l.next ∧ .heap b ∉ l.deleted) (ptr : Addr) :
    (l.delete ptr).blocks.Nodup ∧
      ∀ b ∈ (l.delete ptr).blocks, b < l.next ∧ .heap b ∉ (l.delete ptr).deleted := by
  cases ptr with
  | null => exact ⟨hnodup, fun b hb => ⟨(hout b hb).1, by simpa [Ledger.delete] using (hout b hb).2⟩⟩
  | caller region =>
      exact ⟨hnodup, fun b hb => ⟨(hout b hb).1, by simpa [Ledger.delete] using (hout b hb).2⟩⟩
  | heap block =>
      refine ⟨hnodup.erase block, fun b hb => ?_⟩
      obtain ⟨hne, hmem⟩ := (hnodup.mem_erase_iff).mp hb
      exact ⟨(hout b hmem).1, by simpa [Ledger.delete, hne] using (hout b hmem).2⟩

/-- A successful construction keeps the store sound. -/
theorem sound_construct {s : Store O} (hsound : SoundStore s) {o : O} {c : Construction} {h : Handle}
    {l : Ledger} (hbuild : c.run s.ledger = .ok h l) :
    SoundStore (⟨l, update s.slot o (.live h c (newBlock s.ledger l))⟩ : Store O) := by
  have hres := Construction.run_ok hbuild
  have hle : s.ledger.next ≤ l.next := by
    rw [hres.storage.next]
    split
    · exact Nat.le_succ _
    · exact Nat.le_refl _
  have hlt : ∀ b, newBlock s.ledger l = some b → b < l.next := by
    intro b hb
    unfold newBlock at hb
    split at hb
    · cases hb
    · cases hb
      omega
  have hdeleted := construct_deleted hbuild
  have hblocks : l.blocks.Nodup ∧ ∀ b ∈ l.blocks, b < l.next ∧ .heap b ∉ l.deleted := by
    rw [hres.storage.blocks, hres.storage.next, hres.storage.deleted]
    split
    · exact blocks_new hsound.nodup hsound.outstanding hsound.deleted_lt
    · exact ⟨hsound.nodup, hsound.outstanding⟩
  refine ⟨fun o' h' c' block hslot => ?_, fun o' h' c' b hslot => ?_, fun b hb => ?_, hblocks.1,
    hblocks.2⟩
  · change update s.slot o _ o' = _ at hslot
    rw [update_apply] at hslot
    split at hslot
    · cases hslot
      exact recorded_of_result hres
    · exact hsound.recorded o' h' c' block hslot
  · change update s.slot o _ o' = _ at hslot
    rw [update_apply] at hslot
    split at hslot
    · injection hslot with _ _ hnew
      exact hlt b hnew
    · exact Nat.lt_of_lt_of_le (hsound.issued o' h' c' b hslot) hle
  · -- deleted blocks are old ones
    rw [hdeleted] at hb
    exact Nat.lt_of_lt_of_le (hsound.deleted_lt b hb) hle

/-- Destroying a live handle keeps the store sound, whatever its destructor deletes. -/
theorem sound_destroy {s : Store O} (hsound : SoundStore s) {o : O} {h : Handle} {c : Construction}
    {block : Option Nat} (hslot : s.slot o = .live h c block) :
    SoundStore (⟨h.destruct s.ledger, update s.slot o .gone⟩ : Store O) := by
  have hrec := hsound.recorded o h c block hslot
  have hstorage := h.destruct_storage s.ledger
  have hnext := destruct_next h s.ledger
  have hblocks : (h.destruct s.ledger).blocks.Nodup ∧ ∀ b ∈ (h.destruct s.ledger).blocks,
      b < (h.destruct s.ledger).next ∧ .heap b ∉ (h.destruct s.ledger).deleted := by
    rw [hnext, hstorage.blocks, hstorage.deleted]
    split
    · exact blocks_delete hsound.nodup hsound.outstanding h.ptr
    · exact ⟨hsound.nodup, hsound.outstanding⟩
  have hback : ∀ o' h' c' block', update s.slot o .gone o' = .live h' c' block' →
      s.slot o' = .live h' c' block' := by
    intro o' h' c' block' hlive
    rw [update_apply] at hlive
    split at hlive
    · cases hlive
    · exact hlive
  refine ⟨fun o' h' c' block' hlive => hsound.recorded o' h' c' block' (hback _ _ _ _ hlive),
    fun o' h' c' b hlive => ?_, fun b hb => ?_, hblocks.1, hblocks.2⟩
  · rw [hnext]
    exact hsound.issued o' h' c' b (hback _ _ _ _ hlive)
  · rw [hnext]
    change Addr.heap b ∈ (h.destruct s.ledger).deleted at hb
    rw [destruct_deleted] at hb
    split at hb
    · rcases List.mem_cons.mp hb with hptr | hmem
      · -- a block deleted now is the one the constructor of this handle allocated
        have hblock := (hrec.owned b).mp hptr.symm
        subst hblock
        exact hsound.issued o h c b hslot
      · exact hsound.deleted_lt b hmem
    · exact hsound.deleted_lt b hb

theorem sound_step {s s' : Store O} {a : StoreAction O} (hsound : SoundStore s)
    (hstep : StoreStep s a s') : SoundStore s' := by
  cases hstep with
  | construct hslot hbuild => exact sound_construct hsound hbuild
  | destroy hslot => exact sound_destroy hsound hslot

end AxzlCore

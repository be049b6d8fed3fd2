import AxzlCore.Library.OwnedHeap
import AxzlCore.Library.Runs
import AxzlCore.Thread.Object

/-!
# The context of a new thread

The constructor of `Thread` bundles `this` and the callable into a heap block, starts the thread with the raw
pointer to it, and then lets go of the block; the new thread takes the pointer, reads `This` and the callable
through it and frees the block when `ThreadEntry` returns.  Each side keeps the pointer in a `unique_ptr`, and
between `pthread_create` and `ctx.release()` both do.  Here any number of constructions run interleaved, step
by step, on one heap that hands out freed addresses again.

* `CreatorPc`, `EntryPart`, `ContextStep` — the two sides of a construction and their steps.  A side that
  reads or frees a block that is not there is `lost`.
* `tidy_step` — after `pthread_create` the block is the new thread's, whatever pointers the creator still
  keeps.
* `context_handed_over` — in every interleaving nobody gets lost, each thread runs the callable of its own
  construction on its own object, and when all sides are through the heap is empty.
-/

set_option autoImplicit false

namespace AxzlCore

open Function OwnedHeap Runs

/-- `Thread::Context`. -/
structure Thread.Context (O D : Type) where
  this : O
  callData : D

/-- A heap address. -/
abbrev Block := Nat

/-- The constructor, as far as the context goes. -/
inductive CreatorPc
  | before
  /-- After `make_unique`; filling the attribute object, or in `pthread_create`. -/
  | building (ctx : Block)
  /-- `pthread_create` has started the thread; before `ctx.release()`. -/
  | launched (ctx : Block)
  | returned
  | threw
  | lost
  deriving DecidableEq

/-- `ThreadEntry`, as far as the context goes. -/
inductive EntryPart (O D : Type)
  | unborn
  /-- Started with the argument `arg`. -/
  | started (arg : Block)
  /-- The `unique_ptr` has the block. -/
  | taken (ctx : Block)
  /-- `This` was read from it. -/
  | prepared (ctx : Block) (this : O)
  /-- The callable was moved out of it and runs. -/
  | running (ctx : Block) (this : O) (callData : D)
  /-- `ThreadEntry` returned; the block is freed. -/
  | finished (this : O) (callData : D)
  /-- An exception left `PostThreadEntryInit` or the callable. -/
  | terminated (ctx : Block)
  | lost

variable {C O D : Type}

/-- All constructions `C`, and the heap they share. -/
structure ContextSys (C O D : Type) where
  creator : C → CreatorPc
  entry : C → EntryPart O D
  heap : Block → Option (Thread.Context O D)

def ContextSys.init : ContextSys C O D := ⟨fun _ => .before, fun _ => .unborn, fun _ => none⟩

/-- The steps of the two sides of construction `k`. -/
inductive ContextAction (C : Type)
  | makeUnique (k : C) (ctx : Block)
  /-- The attributes, or `pthread_create`, throw: the `unique_ptr` frees the block. -/
  | throws (k : C)
  | pthreadCreate (k : C)
  | release (k : C)
  | take (k : C)
  | readThis (k : C)
  | initThrows (k : C)
  | apply (k : C)
  | callableThrows (k : C)
  | finish (k : C)

variable [DecidableEq C]

/-- The constructor frees what its `unique_ptr` has. -/
def ContextSys.creatorFrees (s : ContextSys C O D) (k : C) (ctx : Block) (next : CreatorPc) :
    ContextSys C O D :=
  match s.heap ctx with
  | some _ => { s with creator := update s.creator k next, heap := update s.heap ctx none }
  | none => { s with creator := update s.creator k .lost }

/-- The new thread reads its context and goes on with what it read. -/
def ContextSys.entryReads (s : ContextSys C O D) (k : C) (ctx : Block)
    (next : Thread.Context O D → EntryPart O D) : ContextSys C O D :=
  match s.heap ctx with
  | some context => { s with entry := update s.entry k (next context) }
  | none => { s with entry := update s.entry k .lost }

/-- The new thread frees what its `unique_ptr` has. -/
def ContextSys.entryFrees (s : ContextSys C O D) (k : C) (ctx : Block) (next : EntryPart O D) :
    ContextSys C O D :=
  match s.heap ctx with
  | some _ => { s with entry := update s.entry k next, heap := update s.heap ctx none }
  | none => { s with entry := update s.entry k .lost }

/-- The steps, for constructions that are given `given`. -/
inductive ContextStep (given : C → Thread.Context O D) :
    ContextSys C O D → ContextAction C → ContextSys C O D → Prop
  /-- The allocator may hand out any address that is not in use. -/
  | makeUnique {s : ContextSys C O D} {k : C} {ctx : Block} (hpc : s.creator k = .before)
      (hroom : s.heap ctx = none) :
      ContextStep given s (.makeUnique k ctx)
        { s with
          creator := update s.creator k (.building ctx)
          heap := update s.heap ctx (some (given k)) }
  | throws {s : ContextSys C O D} {k : C} {ctx : Block} (hpc : s.creator k = .building ctx) :
      ContextStep given s (.throws k) (s.creatorFrees k ctx .threw)
  | pthreadCreate {s : ContextSys C O D} {k : C} {ctx : Block} (hpc : s.creator k = .building ctx) :
      ContextStep given s (.pthreadCreate k)
        { s with
          creator := update s.creator k (.launched ctx)
          entry := update s.entry k (.started ctx) }
  | release {s : ContextSys C O D} {k : C} {ctx : Block} (hpc : s.creator k = .launched ctx) :
      ContextStep given s (.release k) { s with creator := update s.creator k .returned }
  | take {s : ContextSys C O D} {k : C} {arg : Block} (hpart : s.entry k = .started arg) :
      ContextStep given s (.take k) { s with entry := update s.entry k (.taken arg) }
  | readThis {s : ContextSys C O D} {k : C} {ctx : Block} (hpart : s.entry k = .taken ctx) :
      ContextStep given s (.readThis k) (s.entryReads k ctx fun context => .prepared ctx context.this)
  | initThrows {s : ContextSys C O D} {k : C} {ctx : Block} {this : O}
      (hpart : s.entry k = .prepared ctx this) :
      ContextStep given s (.initThrows k) { s with entry := update s.entry k (.terminated ctx) }
  | apply {s : ContextSys C O D} {k : C} {ctx : Block} {this : O}
      (hpart : s.entry k = .prepared ctx this) :
      ContextStep given s (.apply k)
        (s.entryReads k ctx fun context => .running ctx this context.callData)
  | callableThrows {s : ContextSys C O D} {k : C} {ctx : Block} {this : O} {callData : D}
      (hpart : s.entry k = .running ctx this callData) :
      ContextStep given s (.callableThrows k) { s with entry := update s.entry k (.terminated ctx) }
  | finish {s : ContextSys C O D} {k : C} {ctx : Block} {this : O} {callData : D}
      (hpart : s.entry k = .running ctx this callData) :
      ContextStep given s (.finish k) (s.entryFrees k ctx (.finished this callData))

/-! ## Whose block it is -/

/-- The two sides of the constructions. -/
inductive Side (C : Type)
  | creator (k : C)
  | entry (k : C)
  deriving DecidableEq

/-- The construction a side belongs to. -/
def Side.construction : Side C → C
  | .creator k | .entry k => k

/-- The creator's block, until `pthread_create` has succeeded. -/
def CreatorPc.owned : CreatorPc → Option Block
  | .building ctx => some ctx
  | _ => none

/-- The new thread's block, from its start on. -/
def EntryPart.owned : EntryPart O D → Option Block
  | .started ctx | .taken ctx | .prepared ctx _ | .running ctx _ _ | .terminated ctx => some ctx
  | .unborn | .finished _ _ | .lost => none

def ContextSys.owns (s : ContextSys C O D) : Side C → Option Block
  | .creator k => (s.creator k).owned
  | .entry k => (s.entry k).owned

/-- What a thread has read is what its construction was given, and it is not lost. -/
def EntryPart.Reads (given : Thread.Context O D) : EntryPart O D → Prop
  | .prepared _ this => this = given.this
  | .running _ this callData | .finished this callData => this = given.this ∧ callData = given.callData
  | .lost => False
  | .unborn | .started _ | .taken _ | .terminated _ => True

/-- The invariant: the heap belongs to the sides, nobody is lost, threads have read the right things, and a
thread is born by its creator's `pthread_create` only. -/
structure ContextsTidy (given : C → Thread.Context O D) (s : ContextSys C O D) : Prop where
  tidy : Tidy (fun p : Side C => given p.construction) s.owns s.heap
  creator : ∀ k, s.creator k ≠ .lost
  reads : ∀ k, (s.entry k).Reads (given k)
  unborn : ∀ k, s.creator k = .before ∨ (∃ ctx, s.creator k = .building ctx) → s.entry k = .unborn

/-! ## One step -/

section Steps

variable {given : C → Thread.Context O D} {s s' : ContextSys C O D} {k : C} {ctx : Block}

theorem owns_update_creator (s : ContextSys C O D) (k : C) (pc : CreatorPc)
    (heap : Block → Option (Thread.Context O D)) :
    ContextSys.owns ⟨update s.creator k pc, s.entry, heap⟩ = update s.owns (.creator k) pc.owned := by
  funext p
  cases p with
  | creator j =>
      by_cases hj : j = k
      · subst hj
        show (update s.creator j pc j).owned = _
        rw [update_self, update_self]
      · show (update s.creator k pc j).owned = _
        rw [update_of_ne hj, update_of_ne (by simpa using hj)]
        rfl
  | entry j =>
      rw [update_of_ne (by simp)]
      rfl

theorem owns_update_entry (s : ContextSys C O D) (k : C) (part : EntryPart O D)
    (heap : Block → Option (Thread.Context O D)) :
    ContextSys.owns ⟨s.creator, update s.entry k part, heap⟩ = update s.owns (.entry k) part.owned := by
  funext p
  cases p with
  | creator j =>
      rw [update_of_ne (by simp)]
      rfl
  | entry j =>
      by_cases hj : j = k
      · subst hj
        show (update s.entry j part j).owned = _
        rw [update_self, update_self]
      · show (update s.entry k part j).owned = _
        rw [update_of_ne hj, update_of_ne (by simpa using hj)]
        rfl

theorem creator_update (h : ContextsTidy given s) {pc : CreatorPc} (hpc : pc ≠ .lost) (j : C) :
    update s.creator k pc j ≠ .lost := by
  by_cases hj : j = k
  · rw [hj, update_self]
    exact hpc
  · rw [update_of_ne hj]
    exact h.creator j

theorem reads_update (h : ContextsTidy given s) {part : EntryPart O D} (hreads : part.Reads (given k))
    (j : C) : (update s.entry k part j).Reads (given j) := by
  by_cases hj : j = k
  · subst hj
    rw [update_self]
    exact hreads
  · rw [update_of_ne hj]
    exact h.reads j

/-- A step of the new thread that keeps its block. -/
theorem tidy_entry_keep (h : ContextsTidy given s) {part : EntryPart O D}
    (howned : part.owned = (s.entry k).owned) (hreads : part.Reads (given k))
    (hborn : s.entry k ≠ .unborn) : ContextsTidy given { s with entry := update s.entry k part } where
  tidy := by
    rw [owns_update_entry, howned, show (s.entry k).owned = s.owns (.entry k) from rfl, update_eq_self]
    exact h.tidy
  creator := h.creator
  reads := reads_update h hreads
  unborn j hj := by
    have hjk : j ≠ k := by
      rintro rfl
      exact hborn (h.unborn j hj)
    show update s.entry k part j = .unborn
    rw [update_of_ne hjk]
    exact h.unborn j hj

/-- A thread that reads its context finds what its construction was given. -/
theorem tidy_entryReads (h : ContextsTidy given s) {next : Thread.Context O D → EntryPart O D}
    (hctx : (s.entry k).owned = some ctx) (howned : (next (given k)).owned = some ctx)
    (hreads : (next (given k)).Reads (given k)) : ContextsTidy given (s.entryReads k ctx next) := by
  have hlive : s.heap ctx = some (given k) := h.tidy.owned (.entry k) ctx hctx
  unfold ContextSys.entryReads
  rw [hlive]
  refine tidy_entry_keep h (howned.trans hctx.symm) hreads fun hunborn => ?_
  rw [hunborn] at hctx
  cases hctx

/-- **One step.**  The heap stays tidy: the block changes hands at `pthread_create`, and only its owner reads
or frees it. -/
theorem tidy_step {a : ContextAction C} (h : ContextsTidy given s) (hstep : ContextStep given s a s') :
    ContextsTidy given s' := by
  cases hstep with
  | @makeUnique k ctx hpc hroom =>
      have hidle : s.owns (.creator k) = none := by
        show (s.creator k).owned = none
        rw [hpc]
        rfl
      refine ⟨?_, creator_update h (by simp), h.reads, fun j hj => ?_⟩
      · rw [owns_update_creator]
        exact tidy_allocate h.tidy hidle hroom
      · by_cases hjk : j = k
        · rw [hjk]
          exact h.unborn k (.inl hpc)
        · simp only [update_of_ne hjk] at hj
          exact h.unborn j hj
  | @throws k ctx hpc =>
      have hown : s.owns (.creator k) = some ctx := by
        show (s.creator k).owned = some ctx
        rw [hpc]
        rfl
      unfold ContextSys.creatorFrees
      rw [h.tidy.owned (.creator k) ctx hown]
      refine ⟨?_, creator_update h (by simp), h.reads, fun j hj => ?_⟩
      · show Tidy _ (ContextSys.owns ⟨update s.creator k .threw, s.entry, update s.heap ctx none⟩) _
        rw [owns_update_creator]
        exact tidy_free h.tidy hown
      · by_cases hjk : j = k
        · rw [hjk]
          exact h.unborn k (.inr ⟨ctx, hpc⟩)
        · simp only [update_of_ne hjk] at hj
          exact h.unborn j hj
  | @pthreadCreate k ctx hpc =>
      have hown : s.owns (.creator k) = some ctx := by
        show (s.creator k).owned = some ctx
        rw [hpc]
        rfl
      have hidle : s.owns (.entry k) = none := by
        show (s.entry k).owned = none
        rw [h.unborn k (.inr ⟨ctx, hpc⟩)]
        rfl
      refine ⟨?_, creator_update h (by simp), reads_update h trivial, fun j hj => ?_⟩
      · -- the creator still has the pointer, but the block is the thread's now
        rw [owns_update_entry ⟨update s.creator k (.launched ctx), s.entry, s.heap⟩, owns_update_creator]
        exact tidy_transfer h.tidy hown hidle rfl
      · have hjk : j ≠ k := by
          rintro rfl
          simp at hj
        simp only [update_of_ne hjk] at hj ⊢
        exact h.unborn j hj
  | @release k ctx hpc =>
      refine ⟨?_, creator_update h (by simp), h.reads, fun j hj => ?_⟩
      · have hnone : s.owns (.creator k) = none := by
          show (s.creator k).owned = none
          rw [hpc]
          rfl
        rw [owns_update_creator, show CreatorPc.returned.owned = none from rfl, ← hnone, update_eq_self]
        exact h.tidy
      · have hjk : j ≠ k := by
          rintro rfl
          simp at hj
        simp only [update_of_ne hjk] at hj
        exact h.unborn j hj
  | @take k arg hpart =>
      refine tidy_entry_keep h ?_ trivial ?_
      · rw [hpart]
        rfl
      · rw [hpart]
        simp
  | @readThis k ctx hpart =>
      refine tidy_entryReads h ?_ rfl rfl
      rw [hpart]
      rfl
  | @initThrows k ctx this hpart =>
      refine tidy_entry_keep h ?_ trivial ?_
      · rw [hpart]
        rfl
      · rw [hpart]
        simp
  | @apply k ctx this hpart =>
      have hread := h.reads k
      rw [hpart] at hread
      refine tidy_entryReads h ?_ rfl ⟨hread, rfl⟩
      rw [hpart]
      rfl
  | @callableThrows k ctx this callData hpart =>
      refine tidy_entry_keep h ?_ trivial ?_
      · rw [hpart]
        rfl
      · rw [hpart]
        simp
  | @finish k ctx this callData hpart =>
      have hown : s.owns (.entry k) = some ctx := by
        show (s.entry k).owned = some ctx
        rw [hpart]
        rfl
      have hread := h.reads k
      rw [hpart] at hread
      unfold ContextSys.entryFrees
      rw [h.tidy.owned (.entry k) ctx hown]
      refine ⟨?_, h.creator, reads_update h hread, fun j hj => ?_⟩
      · show Tidy _ (ContextSys.owns ⟨s.creator, update s.entry k (.finished this callData),
          update s.heap ctx none⟩) _
        rw [owns_update_entry]
        exact tidy_free h.tidy hown
      · have hjk : j ≠ k := by
          rintro rfl
          have hunborn := h.unborn j hj
          rw [hpart] at hunborn
          cases hunborn
        show update s.entry k _ j = .unborn
        rw [update_of_ne hjk]
        exact h.unborn j hj

end Steps

/-! ## Runs -/

/-- Both sides of the construction are through. -/
def ContextSys.Through (s : ContextSys C O D) (k : C) : Prop :=
  (s.creator k = .before ∨ s.creator k = .returned ∨ s.creator k = .threw) ∧
    (s.entry k = .unborn ∨ ∃ this callData, s.entry k = .finished this callData)

/-- **The context is handed over.**  In every interleaving of any number of constructions and the threads
they start, with failures on either side and addresses used again: no side reads or frees a block that is
gone, each thread reads the object and the callable of its own construction, every live block has exactly
one owner, and once all sides are through nothing is left on the heap. -/
theorem context_handed_over {given : C → Thread.Context O D}
    {trs : List (Transition (ContextSys C O D) (ContextAction C))} {s : ContextSys C O D}
    (hrun : Run (ContextStep given) .init trs s) :
    (∀ k, s.creator k ≠ .lost ∧ (s.entry k).Reads (given k)) ∧
      (∀ ctx context, s.heap ctx = some context → ∃! p, s.owns p = some ctx) ∧
      ((∀ k, s.Through k) → ∀ ctx, s.heap ctx = none) := by
  have hinit : ContextsTidy given (.init : ContextSys C O D) := by
    refine ⟨?_, fun k => by simp [ContextSys.init], fun k => trivial, fun k _ => rfl⟩
    have hnobody : (ContextSys.init : ContextSys C O D).owns = fun _ => none := by
      funext p
      cases p <;> rfl
    rw [hnobody]
    exact tidy_empty _
  have h := (hrun.invariant (fun _ _ _ hinv hstep => tidy_step hinv hstep) hinit).1
  refine ⟨fun k => ⟨h.creator k, h.reads k⟩, fun ctx context hlive => h.tidy.existsUnique_owner hlive,
    fun hthrough => h.tidy.eq_empty fun p => ?_⟩
  cases p with
  | creator k =>
      show (s.creator k).owned = none
      rcases (hthrough k).1 with hpc | hpc | hpc
      · rw [hpc]
        rfl
      · rw [hpc]
        rfl
      · rw [hpc]
        rfl
  | entry k =>
      show (s.entry k).owned = none
      rcases (hthrough k).2 with hpart | ⟨this, callData, hpart⟩
      · rw [hpart]
        rfl
      · rw [hpart]
        rfl

/-- The first construction throws; the second gets the same address again, and its thread is through before
the constructor lets go of the pointer. -/
theorem context_handed_over_reused :
    ∃ (trs : List (Transition (ContextSys Bool Nat String) (ContextAction Bool)))
      (s : ContextSys Bool Nat String),
      Run (ContextStep fun k => if k then ⟨1, "second"⟩ else ⟨0, "first"⟩) .init trs s ∧
        s.creator false = .threw ∧ s.entry true = .finished 1 "second" ∧ ∀ ctx, s.heap ctx = none := by
  have hfirst : ContextStep (fun k : Bool => if k then ⟨1, "second"⟩ else ⟨0, "first"⟩)
      (.init : ContextSys Bool Nat String) (.makeUnique false 7) _ := .makeUnique rfl rfl
  have hsecond : ∀ s : ContextSys Bool Nat String, s.creator true = .before → s.heap 7 = none →
      ContextStep (fun k : Bool => if k then ⟨1, "second"⟩ else ⟨0, "first"⟩) s (.makeUnique true 7) _ :=
    fun _ hpc hroom => .makeUnique hpc hroom
  have hrun := Run.cons hfirst
    (.cons (.throws (k := false) rfl)
    (.cons (hsecond _ rfl rfl)
    (.cons (.pthreadCreate (k := true) rfl)
    (.cons (.take (k := true) rfl)
    (.cons (.readThis (k := true) rfl)
    (.cons (.apply (k := true) rfl)
    (.cons (.finish (k := true) rfl)
    (.single (.release (k := true) rfl)))))))))
  refine ⟨_, _, hrun, rfl, rfl, (context_handed_over hrun).2.2 fun k => ?_⟩
  cases k with
  | false => exact ⟨.inr (.inr rfl), .inl rfl⟩
  | true => exact ⟨.inr (.inl rfl), .inr ⟨_, _, rfl⟩⟩

end AxzlCore

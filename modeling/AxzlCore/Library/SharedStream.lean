import Mathlib.Logic.Function.Basic

/-!
# A buffered stream with several writers

Writers hand pieces to one stream, which keeps them in a buffer and passes them on in order, some at a time.
What a writer has to say in one go may take several pieces, and the pieces of several writers may mix.
Every element is marked with its writer.

* `Sys`, `Step` — the buffer, what has left it, the pieces the writers have not handed over yet, and,
  for reference, all that they set out to say (`asked`).
* `Accounted` — whatever mixes, nobody's words are lost, doubled or reordered (`accounted_step`).
* `InTurn` — writers that wait for their turn do not mix (`inTurn_step`).
-/

set_option autoImplicit false

namespace SharedStream

open Function

universe u v

variable {W : Type u} {A : Type v}

/-- Elements of one writer. -/
def tag (w : W) (as : List A) : List (W × A) := as.map fun a => (w, a)

/-- The stream. -/
structure Sys (W : Type u) (A : Type v) where
  /-- Pieces not handed over yet. -/
  pending : W → List (List A)
  buffered : List (W × A)
  written : List (W × A)
  /-- All the writers have set out to say, in the order in which they began. -/
  asked : List (W × A)

def Sys.init : Sys W A := ⟨fun _ => [], [], [], []⟩

namespace Sys

variable (s : Sys W A)

/-- What the stream was handed. -/
def accepted : List (W × A) := s.written ++ s.buffered

/-- The buffer passes its first `n` elements on. -/
def writeOut (n : Nat) : Sys W A :=
  { s with buffered := s.buffered.drop n, written := s.written ++ s.buffered.take n }

/-- The buffer passes everything on. -/
def flush : Sys W A := { s with buffered := [], written := s.written ++ s.buffered }

variable [DecidableEq W]

/-- A writer sets out to say something, in these pieces. -/
def start (w : W) (pieces : List (List A)) : Sys W A :=
  { s with pending := update s.pending w pieces, asked := s.asked ++ tag w pieces.flatten }

/-- A writer hands over a piece and keeps the others. -/
def emit (w : W) (piece : List A) (rest : List (List A)) : Sys W A :=
  { s with pending := update s.pending w rest, buffered := s.buffered ++ tag w piece }

end Sys

inductive Action (W : Type u) (A : Type v)
  | start (w : W) (pieces : List (List A))
  | emit (w : W)
  | writeOut (n : Nat)
  | flush

variable [DecidableEq W]

inductive Step : Sys W A → Action W A → Sys W A → Prop
  | start {s : Sys W A} {w : W} {pieces : List (List A)} (hidle : s.pending w = []) :
      Step s (.start w pieces) (s.start w pieces)
  | emit {s : Sys W A} {w : W} {piece : List A} {rest : List (List A)}
      (hpending : s.pending w = piece :: rest) : Step s (.emit w) (s.emit w piece rest)
  | writeOut {s : Sys W A} {n : Nat} : Step s (.writeOut n) (s.writeOut n)
  | flush {s : Sys W A} : Step s .flush s.flush

/-- The words of one writer. -/
def wordsOf (w : W) (xs : List (W × A)) : List A :=
  xs.filterMap fun x => if x.1 = w then some x.2 else none

/-! ## Words and operations -/

section Words

variable {w u : W} {s : Sys W A}

@[simp] theorem wordsOf_append (w : W) (xs ys : List (W × A)) :
    wordsOf w (xs ++ ys) = wordsOf w xs ++ wordsOf w ys :=
  List.filterMap_append

theorem wordsOf_cons_self (p : W × A) (xs : List (W × A)) :
    wordsOf p.1 (p :: xs) = p.2 :: wordsOf p.1 xs :=
  List.filterMap_cons_some (if_pos rfl)

theorem wordsOf_cons_of_ne {p : W × A} (hne : p.1 ≠ w) (xs : List (W × A)) :
    wordsOf w (p :: xs) = wordsOf w xs :=
  List.filterMap_cons_none (if_neg hne)

@[simp] theorem wordsOf_tag_self (w : W) (as : List A) : wordsOf w (tag w as) = as := by
  induction as with
  | nil => rfl
  | cons a as ih => exact (wordsOf_cons_self (w, a) _).trans (congrArg (a :: ·) ih)

theorem wordsOf_tag_of_ne (hne : u ≠ w) (as : List A) : wordsOf w (tag u as) = [] := by
  induction as with
  | nil => rfl
  | cons a as ih => exact (wordsOf_cons_of_ne hne _).trans ih

omit [DecidableEq W] in
@[simp] theorem tag_append (w : W) (as bs : List A) : tag w (as ++ bs) = tag w as ++ tag w bs :=
  List.map_append

omit [DecidableEq W] in
@[simp] theorem map_snd_tag (w : W) (as : List A) : (tag w as).map Prod.snd = as := by
  simp [tag, Function.comp_def]

/-- The words of a writer in a sequence of utterances. -/
theorem wordsOf_flatMap_tag {B : Type*} (w : W) (f : B → List A) (ps : List (W × B)) :
    wordsOf w (ps.flatMap fun p => tag p.1 (f p.2)) = (wordsOf w ps).flatMap f := by
  induction ps with
  | nil => rfl
  | cons p ps ih =>
      rw [List.flatMap_cons, wordsOf_append, ih]
      by_cases hp : p.1 = w
      · subst hp
        rw [wordsOf_cons_self, wordsOf_tag_self, List.flatMap_cons]
      · rw [wordsOf_cons_of_ne hp, wordsOf_tag_of_ne hp, List.nil_append]

omit [DecidableEq W] in
theorem map_snd_flatMap_tag {B : Type*} (f : B → List A) (ps : List (W × B)) :
    (ps.flatMap fun p => tag p.1 (f p.2)).map Prod.snd = (ps.map Prod.snd).flatMap f := by
  simp [List.map_flatMap, List.flatMap_map]

omit [DecidableEq W] in
@[simp] theorem accepted_writeOut (n : Nat) : (s.writeOut n).accepted = s.accepted := by
  simp [Sys.accepted, Sys.writeOut, List.append_assoc]

omit [DecidableEq W] in
@[simp] theorem accepted_flush : s.flush.accepted = s.accepted := by
  simp [Sys.accepted, Sys.flush]

@[simp] theorem accepted_emit (w : W) (piece : List A) (rest : List (List A)) :
    (s.emit w piece rest).accepted = s.accepted ++ tag w piece := by
  simp [Sys.accepted, Sys.emit, List.append_assoc]

end Words

/-! ## Each writer alone -/

/-- What a writer set out to say is what was handed over, and then what is pending. -/
def Accounted (s : Sys W A) : Prop :=
  ∀ w, wordsOf w s.asked = wordsOf w s.accepted ++ (s.pending w).flatten

theorem accounted_init : Accounted (Sys.init : Sys W A) := fun _ => rfl

theorem accounted_step {s s' : Sys W A} {a : Action W A} (h : Accounted s) (hstep : Step s a s') :
    Accounted s' := by
  intro v
  cases hstep with
  | @start w pieces hidle =>
      have hv := h v
      by_cases hvw : v = w
      · subst hvw
        simp only [hidle, List.flatten_nil, List.append_nil] at hv
        simp [Sys.start, hv, Sys.accepted]
      · simp [Sys.start, update_of_ne hvw, wordsOf_tag_of_ne (Ne.symm hvw), hv, Sys.accepted]
  | @emit w piece rest hpending =>
      have hv := h v
      rw [accepted_emit, wordsOf_append]
      by_cases hvw : v = w
      · subst hvw
        simp only [hpending, List.flatten_cons] at hv
        simp [Sys.emit, hv, List.append_assoc]
      · simp [Sys.emit, update_of_ne hvw, wordsOf_tag_of_ne (Ne.symm hvw), hv]
  | writeOut =>
      rw [accepted_writeOut]
      exact h v
  | flush =>
      rw [accepted_flush]
      exact h v

/-- What has left the buffer stays where it is. -/
theorem written_prefix_step {s s' : Sys W A} {a : Action W A} (hstep : Step s a s') :
    s.written <+: s'.written := by
  cases hstep with
  | start | emit => exact List.prefix_rfl
  | writeOut => exact List.prefix_append _ _
  | flush => exact List.prefix_append _ _

/-! ## Writers in turn -/

/-- Nobody is in the middle of saying something. -/
def Sys.Quiet (s : Sys W A) : Prop := ∀ w, s.pending w = []

/-- Writers begin when all others have finished. -/
def WaitsTurn (s : Sys W A) : Action W A → Prop
  | .start _ _ => s.Quiet
  | _ => True

/-- One writer at most is in the middle of something, and only its last pieces are missing. -/
inductive InTurn (s : Sys W A) : Prop
  | quiet (hquiet : s.Quiet) (hasked : s.asked = s.accepted)
  | speaking (w : W) (hothers : ∀ u, u ≠ w → s.pending u = [])
      (hasked : s.asked = s.accepted ++ tag w (s.pending w).flatten)

omit [DecidableEq W] in
theorem inTurn_init : InTurn (Sys.init : Sys W A) := .quiet (fun _ => rfl) rfl

omit [DecidableEq W] in
/-- Between two utterances everything was handed over in the order it was begun. -/
theorem InTurn.asked_of_quiet {s : Sys W A} (h : InTurn s) (hquiet : s.Quiet) : s.asked = s.accepted := by
  cases h with
  | quiet _ hasked => exact hasked
  | speaking w hothers hasked => simpa [hquiet w, tag] using hasked

theorem inTurn_step {s s' : Sys W A} {a : Action W A} (h : InTurn s) (hturn : WaitsTurn s a)
    (hstep : Step s a s') : InTurn s' := by
  cases hstep with
  | @start w pieces hidle =>
      have hasked := h.asked_of_quiet hturn
      refine .speaking w (fun u hu => ?_) ?_
      · simpa [Sys.start, update_of_ne hu] using hturn u
      · simp [Sys.start, hasked, Sys.accepted]
  | @emit w piece rest hpending =>
      cases h with
      | quiet hquiet _ =>
          rw [hquiet w] at hpending
          cases hpending
      | speaking v hothers hasked =>
          -- only the writer that is speaking has a piece to hand over
          have hvw : w = v := by
            by_contra hne
            rw [hothers w hne] at hpending
            cases hpending
          subst hvw
          refine .speaking w (fun u hu => ?_) ?_
          · simpa [Sys.emit, update_of_ne hu] using hothers u hu
          · rw [accepted_emit]
            simp [Sys.emit, hasked, hpending, List.append_assoc]
  | @writeOut n =>
      cases h with
      | quiet hquiet hasked => exact .quiet hquiet (by rw [accepted_writeOut]; exact hasked)
      | speaking w hothers hasked => exact .speaking w hothers (by rw [accepted_writeOut]; exact hasked)
  | flush =>
      cases h with
      | quiet hquiet hasked => exact .quiet hquiet (by rw [accepted_flush]; exact hasked)
      | speaking w hothers hasked => exact .speaking w hothers (by rw [accepted_flush]; exact hasked)

end SharedStream

import Mathlib.Data.List.Basic

/-!
# Formats of one record a line

A text is a sequence of lines, each ended by a terminator, and each line is a record.

* `LineFormat` — such a format: how one line is written and read.  That reading inverts writing is part of
  the structure.
* `LineFormat.parse_eq_some` — a text is read as some records exactly if it is what these records are
  written as, and no record has the terminator within.
-/

set_option autoImplicit false

/-- A format of lines: records that are `Valid` are written without the terminator and read back. -/
structure LineFormat (A : Type*) (E : Type*) where
  terminator : A
  writeLine : E → List A
  readLine : List A → Option E
  Valid : E → Prop
  readLine_eq_some : ∀ line e, readLine line = some e ↔ line = writeLine e ∧ Valid e

namespace LineFormat

universe u v

variable {A : Type u} {E : Type v}

/-! ## Terminated lines -/

/-- A terminator after each line puts one between each two, and one before the empty rest. -/
theorem intercalate_terminated (a : A) (ls : List (List A)) :
    [a].intercalate (ls ++ [[]]) = ls.flatMap (· ++ [a]) := by
  induction ls with
  | nil => simp
  | cons l ls ih =>
      rw [List.cons_append, List.intercalate_cons_of_ne_nil (by simp), ih, List.flatMap_cons]

variable [DecidableEq A]

/-- What is between two terminators has none. -/
theorem notMem_of_mem_splitOn {a : A} {xs l : List A} (h : l ∈ xs.splitOn a) : a ∉ l := by
  induction xs generalizing l with
  | nil =>
      rw [List.splitOn_nil, List.mem_singleton] at h
      simp [h]
  | cons x xs ih =>
      rw [List.splitOn_cons_eq_if_modifyHead] at h
      have hne := List.splitOn_ne_nil a xs
      generalize hls : xs.splitOn a = ls at h hne
      rw [hls] at ih
      split at h
      · rcases List.mem_cons.mp h with rfl | hmem
        · simp
        · exact ih hmem
      · next hx =>
          cases ls with
          | nil => exact absurd rfl hne
          | cons head tail =>
              rcases List.mem_cons.mp h with rfl | hmem
              · -- the first piece has `x` in front
                have hhead := ih (List.mem_cons_self (l := tail))
                have hax : a ≠ x := fun heq => hx (by simp [heq])
                simp [hax, hhead]
              · exact ih (List.mem_cons_of_mem _ hmem)

/-- A text splits into lines and an empty rest exactly if each line is terminated. -/
theorem splitOn_eq_terminated {a : A} {xs : List A} {ls : List (List A)} :
    xs.splitOn a = ls ++ [[]] ↔ xs = ls.flatMap (· ++ [a]) ∧ ∀ l ∈ ls, a ∉ l := by
  constructor
  · intro h
    refine ⟨?_, fun l hl => ?_⟩
    · rw [← intercalate_terminated, ← h, List.intercalate_splitOn]
    · have hpiece : l ∈ xs.splitOn a := h ▸ List.mem_append_left _ hl
      exact notMem_of_mem_splitOn hpiece
  · rintro ⟨rfl, hls⟩
    rw [← intercalate_terminated]
    refine List.splitOn_intercalate a (fun l hl => ?_) (by simp)
    rcases List.mem_append.mp hl with hmem | hlast
    · exact hls l hmem
    · rw [List.mem_singleton.mp hlast]
      simp

/-! ## Texts -/

variable (format : LineFormat A E)

/-- The text of some records. -/
def print (es : List E) : List A := es.flatMap fun e => format.writeLine e ++ [format.terminator]

/-- The records of the lines up to an empty rest. -/
def readLines : List (List A) → Option (List E)
  | [] => none
  | [rest] => if rest.isEmpty then some [] else none
  | line :: lines => do
      let e ← format.readLine line
      let es ← readLines lines
      return e :: es

/-- Reading a text. -/
def parse (text : List A) : Option (List E) := format.readLines (text.splitOn format.terminator)

omit [DecidableEq A] in
theorem readLines_eq_some {lines : List (List A)} {es : List E} :
    format.readLines lines = some es ↔
      lines = es.map format.writeLine ++ [[]] ∧ ∀ e ∈ es, format.Valid e := by
  induction lines generalizing es with
  | nil => simp [readLines]
  | cons line lines ih =>
      cases lines with
      | nil =>
          cases es with
          | nil => simp [readLines]
          | cons e es => simp [readLines]
      | cons line' lines =>
          -- `line` is the line of the first record
          cases es with
          | nil => simp [readLines, Option.bind_eq_some_iff]
          | cons e es =>
              have hrest := @ih es
              simp only [readLines, Option.bind_eq_bind, Option.bind_eq_some_iff, Option.pure_def,
                Option.some.injEq, List.cons.injEq, List.map_cons, List.cons_append,
                List.forall_mem_cons] at hrest ⊢
              constructor
              · rintro ⟨e', he', es', hes', rfl, rfl⟩
                obtain ⟨hline, hvalid⟩ := (format.readLine_eq_some _ _).mp he'
                obtain ⟨hlines, hall⟩ := hrest.mp hes'
                exact ⟨⟨hline, hlines⟩, hvalid, hall⟩
              · rintro ⟨⟨hline, hlines⟩, hvalid, hall⟩
                exact ⟨e, (format.readLine_eq_some _ _).mpr ⟨hline, hvalid⟩, es, hrest.mpr ⟨hlines, hall⟩,
                  rfl, rfl⟩

/-- **What a text is read as.** -/
theorem parse_eq_some {text : List A} {es : List E} :
    format.parse text = some es ↔
      text = format.print es ∧ ∀ e ∈ es, format.Valid e ∧ format.terminator ∉ format.writeLine e := by
  unfold parse
  rw [readLines_eq_some, splitOn_eq_terminated, print, List.flatMap_map]
  constructor
  · rintro ⟨⟨htext, hlines⟩, hvalid⟩
    exact ⟨htext, fun e he => ⟨hvalid e he, hlines _ (List.mem_map_of_mem he)⟩⟩
  · rintro ⟨htext, hall⟩
    refine ⟨⟨htext, fun l hl => ?_⟩, fun e he => (hall e he).1⟩
    obtain ⟨e, he, rfl⟩ := List.mem_map.mp hl
    exact (hall e he).2

/-- Records are read back from their text exactly if they are valid and on one line each. -/
theorem parse_print (es : List E) :
    format.parse (format.print es) = some es ↔
      ∀ e ∈ es, format.Valid e ∧ format.terminator ∉ format.writeLine e := by
  rw [parse_eq_some]
  exact and_iff_right rfl

end LineFormat

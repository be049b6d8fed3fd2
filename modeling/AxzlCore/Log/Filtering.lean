import AxzlCore.Log.Log
import Mathlib.Data.List.Forall2

/-!
# Filtering by severity

A level is a threshold: a log is to write the messages at least as severe as its level, and none when it is
off.  The six guards of the source compare the other way round, so a log writes the messages at most as
severe as its level, and all of them when it is off.

* `filtered` — what a run should push.
* `entriesWhere_sublist` — stricter levels let fewer messages through.
* `pushed_eq_filtered_iff` — the guards of the source against the threshold, up to every moment of a run.
* `filters_by_severity_iff` — a run is filtered as it should be exactly when each of its messages is
  written at its own level.
-/

set_option autoImplicit false

namespace AxzlCore

/-- The name of a severity, as a header shows it. -/
def Severity.name : Severity → String
  | .trace => "Trace"
  | .debug => "Debug"
  | .info => "Info"
  | .warn => "Warn"
  | .error => "Error"
  | .critical => "Critical"

/-- The entries a run should push when it starts at `level`: the messages at least as severe as the level
in force, each under its own name. -/
def filtered : Level → List LogOp → List Entry
  | _, [] => []
  | _, .setLevel level :: ops => filtered level ops
  | level, .write severity msg :: ops =>
      if level ≤ severity.level then ⟨"[" ++ severity.name ++ "]-", msg⟩ :: filtered level ops
      else filtered level ops

/-- Two calls that differ at most in that the second one sets a stricter level. -/
def Stricter : LogOp → LogOp → Prop
  | .setLevel level, .setLevel level' => level ≤ level'
  | .write severity msg, .write severity' msg' => severity = severity' ∧ msg = msg'
  | _, _ => False

/-- At every moment of the run the entries pushed are those of the messages at least as severe as the
level in force; and a run with stricter levels pushes a subsequence of them. -/
structure FiltersBySeverity (log : Log) (ops : List LogOp) : Prop where
  pushed : ∀ done, done <+: ops →
    (log.run done).entries = log.entries ++ filtered log.mLevel done
  stricter : ∀ level' ops', log.mLevel ≤ level' → List.Forall₂ Stricter ops ops' →
    ((log.setLevel level').run ops').entries.Sublist (log.run ops).entries

/-- Every message of the run is written while the level in force is the one of the message. -/
def WritesAtLevel : Level → List LogOp → Prop
  | _, [] => True
  | _, .setLevel level :: ops => WritesAtLevel level ops
  | level, .write severity _ :: ops => level = severity.level ∧ WritesAtLevel level ops

/-! ## The threshold as it should be -/

theorem makeHeader_severity (severity : Severity) :
    makeHeader severity.level = "[" ++ severity.name ++ "]-" := by
  cases severity <;> rfl

theorem filtered_eq (level : Level) (ops : List LogOp) :
    filtered level ops = entriesWhere (fun level severity => level ≤ severity) level ops := by
  induction ops generalizing level with
  | nil => rfl
  | cons op ops ih =>
      cases op with
      | setLevel level' => exact ih level'
      | write severity msg =>
          simp only [filtered, entriesWhere, ih, makeHeader_severity, decide_eq_true_eq]
          split
          · rfl
          · rfl

/-- A run with stricter levels pushes fewer entries through any test that a stricter level does not
weaken. -/
theorem entriesWhere_sublist {pass pass' : Level → Level → Bool}
    (hpass : ∀ level level' severity, level ≤ level' → pass' level' severity = true →
      pass level severity = true)
    {ops ops' : List LogOp} (hops : List.Forall₂ Stricter ops ops') {level level' : Level}
    (hlevel : level ≤ level') :
    (entriesWhere pass' level' ops').Sublist (entriesWhere pass level ops) := by
  induction hops generalizing level level' with
  | nil => exact List.Sublist.refl _
  | @cons op op' ops ops' hop hrest ih =>
      cases op with
      | setLevel l =>
          cases op' with
          | setLevel l' => exact ih hop
          | write severity' msg' => exact hop.elim
      | write severity msg =>
          cases op' with
          | setLevel l' => exact hop.elim
          | write severity' msg' =>
              obtain ⟨rfl, rfl⟩ := hop
              refine List.Sublist.append ?_ (ih hlevel)
              by_cases hstrict : pass' level' severity.level = true
              · rw [if_pos hstrict, if_pos (hpass _ _ _ hlevel hstrict)]
              · rw [if_neg hstrict]
                exact List.nil_sublist _

/-! ## The guards of the source -/

/-- The two comparisons agree on a message exactly when it is written at its own level. -/
theorem compare_iff (level severity : Level) :
    (severity ≤ level ↔ level ≤ severity) ↔ level = severity := by
  constructor
  · intro hiff
    rcases le_total level severity with hle | hle
    · exact le_antisymm hle (hiff.mpr hle)
    · exact le_antisymm (hiff.mp hle) hle
  · rintro rfl
    exact Iff.rfl

/-- One message, under the two comparisons. -/
theorem written_iff (level severity : Level) (entry : Entry) :
    (if severity ≤ level then [entry] else []) = (if level ≤ severity then [entry] else []) ↔
      level = severity := by
  rw [← compare_iff]
  by_cases hcode : severity ≤ level
  · by_cases hspec : level ≤ severity
    · simp [hcode, hspec]
    · simp [hcode, hspec]
  · by_cases hspec : level ≤ severity
    · simp [hcode, hspec]
    · simp [hcode, hspec]

/-- Up to every moment of a run, the guards let through what the threshold lets through, exactly when
every message is written at its own level. -/
theorem pushed_eq_filtered_iff (level : Level) (ops : List LogOp) :
    (∀ done, done <+: ops →
      entriesWhere (fun level severity => severity ≤ level) level done = filtered level done) ↔
      WritesAtLevel level ops := by
  simp only [filtered_eq]
  induction ops generalizing level with
  | nil => simp [WritesAtLevel, entriesWhere]
  | cons op ops ih =>
      cases op with
      | setLevel level' =>
          rw [WritesAtLevel, ← ih level']
          constructor
          · intro hall done hdone
            exact hall (.setLevel level' :: done) (by simpa using hdone)
          · intro hall done hdone
            rcases List.prefix_cons_iff.mp hdone with rfl | ⟨rest, rfl, hrest⟩
            · rfl
            · exact hall rest hrest
      | write severity msg =>
          rw [WritesAtLevel, ← ih level, ← written_iff level severity.level ⟨makeHeader severity.level, msg⟩]
          constructor
          · intro hall
            -- the run that ends with this message decides about it, the longer ones about the rest
            have hfirst := hall [.write severity msg] (by simp)
            simp only [entriesWhere, List.append_nil, decide_eq_true_eq] at hfirst
            refine ⟨hfirst, fun done hdone => ?_⟩
            have hnext := hall (.write severity msg :: done) (by simpa using hdone)
            simp only [entriesWhere, decide_eq_true_eq, hfirst, List.append_cancel_left_eq] at hnext
            exact hnext
          · rintro ⟨hfirst, hrest⟩ done hdone
            rcases List.prefix_cons_iff.mp hdone with rfl | ⟨rest, rfl, hprefix⟩
            · rfl
            · simp only [entriesWhere, decide_eq_true_eq, hfirst, hrest rest hprefix]

/-- A run that writes every message at its own level pushes all of them. -/
theorem pushed_all {level : Level} {ops : List LogOp} (hlevel : WritesAtLevel level ops) :
    entriesWhere (fun level severity => severity ≤ level) level ops =
      entriesWhere (fun _ _ => true) level ops := by
  induction ops generalizing level with
  | nil => rfl
  | cons op ops ih =>
      cases op with
      | setLevel level' => exact ih hlevel
      | write severity msg =>
          obtain ⟨rfl, hrest⟩ := hlevel
          simp only [entriesWhere, le_refl, decide_true, ih hrest]

/-- **Exactly when a log filters by severity.**  On a log with an enabled sink, a run is filtered as it
should be if and only if every message is written at its own level. -/
theorem filters_by_severity_iff {log : Log} (hskip : log.mSkipAllLogging = false)
    (ops : List LogOp) : FiltersBySeverity log ops ↔ WritesAtLevel log.mLevel ops := by
  constructor
  · intro hfilters
    refine (pushed_eq_filtered_iff _ _).mp fun done hdone => ?_
    have hpushed := hfilters.pushed done hdone
    rwa [Log.run_entries hskip, List.append_cancel_left_eq] at hpushed
  · intro hlevel
    refine ⟨fun done hdone => ?_, fun level' ops' hle hops => ?_⟩
    · rw [Log.run_entries hskip, (pushed_eq_filtered_iff _ _).mpr hlevel done hdone]
    · -- nothing is missing from the output of the run, whatever the stricter one lets through
      rw [Log.run_entries hskip, Log.run_entries (by simpa using hskip), Log.entries_setLevel,
        Log.setLevel_mLevel, pushed_all hlevel]
      exact (entriesWhere_sublist (fun _ _ _ _ _ => rfl) hops hle).append_left log.entries

/-- An information message at the level `Info`. -/
theorem filters_by_severity_info :
    FiltersBySeverity {} [.setLevel .info, .write .info "started"] :=
  (filters_by_severity_iff rfl _).mpr ⟨rfl, trivial⟩

/-- A log that is off pushes an error message, and one at the level `Info` pushes a trace message and no
error message. -/
theorem off_log_pushes_error :
    (({} : Log).run [.write .error "failed"]).entries = [⟨"[Error]-", "failed"⟩] ∧
      (({} : Log).run [.setLevel .info, .write .trace "step", .write .error "failed"]).entries =
        [⟨"[Trace]-", "step"⟩] ∧
      ¬ FiltersBySeverity {} [.write .error "failed"] := by
  refine ⟨by decide, by decide, fun hfilters => ?_⟩
  have hpushed := hfilters.pushed [.write .error "failed"] (List.prefix_refl _)
  exact absurd hpushed (by decide)

end AxzlCore

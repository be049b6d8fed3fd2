import Mathlib.Data.List.Basic
import Mathlib.Order.Lattice

/-!
# `Log.hpp` — levels, guards and entries

A log has a level and hands its entries to a sink through two virtual functions, `PushEntry` and `Drain`.
What the sink does with them is not fixed here: the model keeps the calls themselves (`SinkCall`), so that
every implementation can be read off them.

The six logging functions differ in their level only (`Log.guarded`).  Each tests that the level of the
log is *at least* its own.

* `Log.run_entries` — what a run of `SetLevel` calls and logging calls pushes to the sink.
-/

set_option autoImplicit false

namespace AxzlCore

/-- `Log::Level`, in the order of the enumerators. -/
inductive Level
  | trace
  | debug
  | info
  | warn
  | error
  | critical
  | off
  | max
  deriving DecidableEq, Repr

namespace Level

/-- The value of the enumerator. -/
def value : Level → Nat
  | .trace => 0
  | .debug => 1
  | .info => 2
  | .warn => 3
  | .error => 4
  | .critical => 5
  | .off => 6
  | .max => 7

theorem value_injective {l l' : Level} (h : l.value = l'.value) : l = l' := by
  cases l <;> cases l' <;> first | rfl | cases h

/-- Levels compare as their values do. -/
instance : LinearOrder Level where
  le l l' := l.value ≤ l'.value
  le_refl l := Nat.le_refl l.value
  le_trans l l' l'' := Nat.le_trans
  le_antisymm l l' h h' := value_injective (Nat.le_antisymm h h')
  le_total l l' := Nat.le_total l.value l'.value
  toDecidableLE l l' := inferInstanceAs (Decidable (l.value ≤ l'.value))

end Level

/-- `LEVEL_STRINGS`; there is none for `Max`. -/
def LEVEL_STRINGS : List String := ["Trace", "Debug", "Info", "Warn", "Error", "Critical", "Off"]

/-- `Log::LevelToString`, only called with the level of a logging function. -/
def levelToString (level : Level) : String := LEVEL_STRINGS.getD level.value ""

/-- `Log::MakeHeader`. -/
def makeHeader (level : Level) : String := "[" ++ levelToString level ++ "]-"

/-- What a sink receives: the header and the expanded message. -/
structure Entry where
  hdr : String
  msg : String
  deriving DecidableEq, Repr

/-- The calls of the virtual functions of a log. -/
inductive SinkCall
  | pushEntry (entry : Entry)
  | drain
  deriving DecidableEq, Repr

/-- A `Log`: its members, and the calls its sink has received, oldest first. -/
structure Log where
  mLevel : Level := .off
  mSkipAllLogging : Bool := false
  sink : List SinkCall := []
  deriving DecidableEq, Repr

namespace Log

def setLevel (level : Level) (log : Log) : Log := { log with mLevel := level }

def getLevel (log : Log) : Level := log.mLevel

/-- `Log::Drain`. -/
def drain (log : Log) : Log := { log with sink := log.sink ++ [.drain] }

/-- `Log::ExpandLogMsg`, on the formatted message. -/
def expandLogMsg (level : Level) (msg : String) (log : Log) : Log :=
  if log.mSkipAllLogging then
    log
  else
    { log with sink := log.sink ++ [.pushEntry ⟨makeHeader level, msg⟩] }

/-- The body of the six logging functions: `if (GetLevel() >= level) ExpandLogMsg(level, ...)`. -/
def guarded (level : Level) (msg : String) (log : Log) : Log :=
  if level ≤ log.getLevel then log.expandLogMsg level msg else log

def critical : String → Log → Log := guarded .critical

def error : String → Log → Log := guarded .error

def warn : String → Log → Log := guarded .warn

def info : String → Log → Log := guarded .info

def debug : String → Log → Log := guarded .debug

def trace : String → Log → Log := guarded .trace

/-- The entries pushed so far, oldest first. -/
def entries (log : Log) : List Entry :=
  log.sink.filterMap fun call =>
    match call with
    | .pushEntry entry => some entry
    | .drain => none

end Log

/-! ## Runs of calls on one log -/

/-- The logging functions, by how severe their messages are. -/
inductive Severity
  | trace
  | debug
  | info
  | warn
  | error
  | critical
  deriving DecidableEq, Repr

/-- The level a logging function writes at. -/
def Severity.level : Severity → Level
  | .trace => .trace
  | .debug => .debug
  | .info => .info
  | .warn => .warn
  | .error => .error
  | .critical => .critical

/-- One call on a log. -/
inductive LogOp
  | setLevel (level : Level)
  | write (severity : Severity) (msg : String)
  deriving DecidableEq, Repr

namespace Log

/-- The call of a logging function. -/
def write : Severity → String → Log → Log
  | .trace => trace
  | .debug => debug
  | .info => info
  | .warn => warn
  | .error => error
  | .critical => critical

def perform (log : Log) : LogOp → Log
  | .setLevel level => log.setLevel level
  | .write severity msg => log.write severity msg

/-- The log after a run of calls. -/
def run (log : Log) (ops : List LogOp) : Log := ops.foldl perform log

theorem write_eq_guarded (severity : Severity) (msg : String) (log : Log) :
    log.write severity msg = log.guarded severity.level msg := by
  cases severity <;> rfl

@[simp] theorem setLevel_mLevel (level : Level) (log : Log) : (log.setLevel level).mLevel = level := rfl

@[simp] theorem setLevel_mSkipAllLogging (level : Level) (log : Log) :
    (log.setLevel level).mSkipAllLogging = log.mSkipAllLogging := rfl

@[simp] theorem entries_setLevel (level : Level) (log : Log) :
    (log.setLevel level).entries = log.entries := rfl

/-- Logging changes neither the level nor whether the sink is disabled. -/
theorem guarded_frame (level : Level) (msg : String) (log : Log) :
    (log.guarded level msg).mLevel = log.mLevel ∧
      (log.guarded level msg).mSkipAllLogging = log.mSkipAllLogging := by
  unfold guarded expandLogMsg
  split
  · split
    · exact ⟨rfl, rfl⟩
    · exact ⟨rfl, rfl⟩
  · exact ⟨rfl, rfl⟩

/-- What a logging function makes of its message: one call of `PushEntry`, if the sink is enabled and its
level is at most that of the log. -/
theorem guarded_sink (level : Level) (msg : String) (log : Log) :
    (log.guarded level msg).sink =
      log.sink ++ if log.mSkipAllLogging = false ∧ level ≤ log.mLevel then
        [.pushEntry ⟨makeHeader level, msg⟩] else [] := by
  unfold guarded getLevel expandLogMsg
  by_cases hlevel : level ≤ log.mLevel
  · cases hskip : log.mSkipAllLogging with
    | true => simp [hlevel]
    | false => simp [hlevel]
  · simp [hlevel]

/-- A logging function pushes its message when its level is at most that of the log. -/
theorem entries_guarded {log : Log} (hskip : log.mSkipAllLogging = false) (level : Level)
    (msg : String) :
    (log.guarded level msg).entries =
      log.entries ++ if level ≤ log.mLevel then [⟨makeHeader level, msg⟩] else [] := by
  unfold entries
  rw [guarded_sink, List.filterMap_append]
  by_cases hlevel : level ≤ log.mLevel
  · simp [hlevel, hskip]
  · simp [hlevel]

end Log

/-- The entries of the calls that `pass` lets through, when the run starts at `level`. -/
def entriesWhere (pass : Level → Level → Bool) : Level → List LogOp → List Entry
  | _, [] => []
  | _, .setLevel level :: ops => entriesWhere pass level ops
  | level, .write severity msg :: ops =>
      (if pass level severity.level then [⟨makeHeader severity.level, msg⟩] else []) ++
        entriesWhere pass level ops

/-- **What a run pushes**: the calls whose level is at most the one in force. -/
theorem Log.run_entries {log : Log} (hskip : log.mSkipAllLogging = false) (ops : List LogOp) :
    (log.run ops).entries =
      log.entries ++ entriesWhere (fun level severity => severity ≤ level) log.mLevel ops := by
  induction ops generalizing log with
  | nil => simp [Log.run, entriesWhere]
  | cons op ops ih =>
      change ((log.perform op).run ops).entries = _
      cases op with
      | setLevel level =>
          rw [Log.perform, ih (by simpa using hskip)]
          simp [entriesWhere]
      | write severity msg =>
          obtain ⟨hlevel, hsame⟩ := Log.guarded_frame severity.level msg log
          rw [Log.perform, Log.write_eq_guarded, ih (hsame.trans hskip), hlevel,
            Log.entries_guarded hskip, List.append_assoc]
          simp [entriesWhere]

end AxzlCore

import AxzlCore.Error.Throw

/-!
# The errors of a process

`Throw` asks `ErrorPolicy` at every error, and what that finds out is kept in statics for the life of the
process.  The environment may be changed between two errors.

* `ThrowCall`, `throwAll` — the errors of a process, one after the other.
* `staticsAfter` — what the first error leaves in the statics; `leave_fresh`, `leave_again`.
* `first_error_decides` — all errors leave in the same way: as plain `std::exception`s if the variable was set
  at the first one, and else all by the null pointer read as a string.
-/

set_option autoImplicit false

namespace AxzlCore

/-- A call of `Throw`: the environment variable by then, the log passed in, and the exception. -/
structure ThrowCall where
  env : Option String
  log : Log
  exc : Exc

/-- How control leaves a call of `Throw`. -/
inductive Leaving
  /-- By the policy in force. -/
  | departs (departure : Departure)
  /-- `ErrorPolicy` read a null pointer as a string.  The language leaves this undefined; where `std::string`
  checks its argument, a `std::logic_error` is thrown through `ErrorPolicy` and `Throw`. -/
  | nullString
  deriving DecidableEq, Repr

/-- The statics after the initialiser of `axzlEnvPolicy` was left by an exception: `envPolicy` has its value,
and the other two are tried again by the next call. -/
def PolicyStatics.afterFault (st : PolicyStatics) (env : Option String) : PolicyStatics :=
  { st with envPolicy := st.envPolicy.or (some env) }

variable (build : PolicyDefinition) (handler : Bool) (strerror : Errno.Rc → String)

/-- `Throw` in a process built with `build`, a build that compiles. -/
def ThrowCall.leave (call : ThrowCall) (st : PolicyStatics) : Leaving × PolicyStatics :=
  match errorPolicy build call.env st with
  | .ok (policy, st') => (.departs (axzlThrow policy handler strerror (some call.log) call.exc).1, st')
  | .error _ => (.nullString, st.afterFault call.env)

/-- How control leaves the calls of `Throw` in a process. -/
def throwAll : List ThrowCall → PolicyStatics → List Leaving
  | [], _ => []
  | call :: calls, st =>
      (call.leave build handler strerror st).1 :: throwAll calls (call.leave build handler strerror st).2

/-- The statics after a first error that found `env`. -/
def staticsAfter : Option String → PolicyStatics
  | none => ⟨some none, none, none⟩
  | some value => ⟨some (some value), some none, some (configuredPolicy build)⟩

/-- How an error leaves, if the first one found `env`. -/
def leavingAfter : Option String → Leaving
  | none => .nullString
  | some _ => .departs (.throws .exception)

variable {build handler strerror}

/-- The builds that compile have a policy that throws. -/
theorem throws_of_compiles (hbuild : BuildCompiles build) : (configuredPolicy build).Throws := by
  cases build with
  | throw | logAndThrow | undefined => trivial
  | logAndCallHandler => exact absurd rfl hbuild.1
  | logAndAbort => exact absurd rfl hbuild.2

/-- With an answer of `ErrorPolicy` that is the policy of the build, a plain `std::exception` leaves. -/
theorem leave_of_answer (hbuild : BuildCompiles build) {call : ThrowCall} {st st' : PolicyStatics}
    (h : errorPolicy build call.env st = .ok (configuredPolicy build, st')) :
    call.leave build handler strerror st = (.departs (.throws .exception), st') := by
  unfold ThrowCall.leave
  rw [h]
  exact congrArg (fun departure => (Leaving.departs departure, st'))
    (axzlThrow_of_throws (throws_of_compiles hbuild) handler strerror (some call.log) call.exc)

theorem leave_of_fault {call : ThrowCall} {st : PolicyStatics} {fault : PolicyFault}
    (h : errorPolicy build call.env st = .error fault) :
    call.leave build handler strerror st = (.nullString, st.afterFault call.env) := by
  unfold ThrowCall.leave
  rw [h]

/-- The answer to the first error that finds the variable set. -/
theorem errorPolicy_first (hbuild : BuildCompiles build) (value : String) :
    errorPolicy build (some value) {} = .ok (configuredPolicy build, staticsAfter build (some value)) := by
  rw [errorPolicy_fresh, errorConfiguredPolicy_of_compiles hbuild]
  rfl

/-- **The first error** leaves as the environment says. -/
theorem leave_fresh (hbuild : BuildCompiles build) (call : ThrowCall) :
    call.leave build handler strerror {} = (leavingAfter call.env, staticsAfter build call.env) := by
  obtain ⟨env, log, exc⟩ := call
  cases env with
  | none => exact leave_of_fault rfl
  | some value => exact leave_of_answer hbuild (errorPolicy_first hbuild value)

/-- **Every later error** leaves as the first one did, whatever the environment says by then. -/
theorem leave_again (hbuild : BuildCompiles build) (env : Option String) (call : ThrowCall) :
    call.leave build handler strerror (staticsAfter build env) =
      (leavingAfter env, staticsAfter build env) := by
  cases env with
  | none =>
      -- `envPolicy` stays null, so the initialiser of `axzlEnvPolicy` fails again
      exact leave_of_fault rfl
  | some value => exact leave_of_answer hbuild (errorPolicy_cached (errorPolicy_first hbuild value) call.env)

theorem throwAll_again (hbuild : BuildCompiles build) (env : Option String) (calls : List ThrowCall) :
    throwAll build handler strerror calls (staticsAfter build env) =
      List.replicate calls.length (leavingAfter env) := by
  induction calls with
  | nil => rfl
  | cons call calls ih =>
      unfold throwAll
      rw [leave_again hbuild env call, ih]
      rfl

/-- **The first error decides.**  In a process built in any way that compiles, with or without a handler, take
any errors and any changes of the environment between them.  If the variable was set at the first error,
whatever its value, then every error throws a plain `std::exception`; if not, every error reads the null
pointer as a string, also where the variable has been set since.  No handler is called and nothing aborts. -/
theorem first_error_decides (hbuild : BuildCompiles build) (handler : Bool) (strerror : Errno.Rc → String)
    (first : ThrowCall) (later : List ThrowCall) :
    throwAll build handler strerror (first :: later) {} =
      List.replicate (later.length + 1)
        (if first.env.isSome then .departs (.throws .exception) else .nullString) := by
  have hfirst : leavingAfter first.env =
      if first.env.isSome then .departs (.throws .exception) else .nullString := by
    cases first.env with
    | none => rfl
    | some value => rfl
  unfold throwAll
  rw [leave_fresh hbuild first, throwAll_again hbuild, ← hfirst]
  rfl

/-- The variable is set after the first error, which is too late. -/
theorem first_error_decides_unset :
    throwAll .logAndThrow true (fun _ => "error")
      [⟨none, {}, .exception⟩, ⟨some "logAndAbort", {}, .exception⟩] {} = [.nullString, .nullString] :=
  first_error_decides ⟨by decide, by decide⟩ true (fun _ => "error") ⟨none, {}, .exception⟩
    [⟨some "logAndAbort", {}, .exception⟩]

end AxzlCore

import AxzlCore.Error.Policy
import AxzlCore.Error.SystemError
import AxzlCore.Log.Log

/-!
# `Error.cpp` — `Axzl::Throw`

Every error of the library ends in `Throw`: it logs the text of the exception and then, by the policy in
force, throws, calls the handler of the program, or aborts.  Its parameter is a `const std::exception&`, and
a `throw` expression copies its operand at the static type of the operand.

* `axzlThrow_of_throws` — under a throwing policy what leaves is a plain `std::exception`, whatever was passed
  in.
-/

set_option autoImplicit false

namespace AxzlCore

open Errno

/-- The classes of exception objects; every further one is known by its name. -/
inductive ExcType
  | exception
  | systemError
  | derived (name : String)
  deriving DecidableEq, Repr

/-- An exception object: its dynamic type, with what that type carries. -/
inductive Exc
  | exception
  | systemError (e : SystemError)
  /-- An object of another class derived from `std::exception`, with the text its `what()` returns. -/
  | derived (name text : String)
  deriving DecidableEq, Repr

namespace Exc

def dynamicType : Exc → ExcType
  | .exception => .exception
  | .systemError _ => .systemError
  | .derived name _ => .derived name

/-- `code()`, which `std::exception` does not have. -/
def code? : Exc → Option Rc
  | .exception | .derived _ _ => none
  | .systemError e => some e.code

/-- `what()`; `strerror` is the message of the system category. -/
def what (strerror : Rc → String) : Exc → String
  | .exception => "std::exception"
  | .systemError e => e.whatArg ++ ": " ++ strerror e.code
  | .derived _ text => text

/-- The copy of an object made through a `const std::exception&`: its base class part. -/
def sliced (_exc : Exc) : Exc := .exception

end Exc

/-- How control leaves `Throw`. -/
inductive Departure
  | throws (exc : Exc)
  | callsHandler (exc : Exc)
  | aborts
  /-- The log was null. -/
  | undefined
  deriving DecidableEq, Repr

namespace UnrecoverableErrorPolicy

/-- The two policies that throw. -/
def Throws : UnrecoverableErrorPolicy → Prop
  | .throwException | .logAndThrowException => True
  | _ => False

end UnrecoverableErrorPolicy

/-- `Axzl::Throw(log, exc)` while `ErrorPolicy()` is `policy`; `handler` says whether the program defines
`NoThrowHandler`.  The second component is the log at the moment control leaves. -/
def axzlThrow (policy : UnrecoverableErrorPolicy) (handler : Bool) (strerror : Rc → String)
    (log : Option Log) (exc : Exc) : Departure × Option Log :=
  match log with
  | none => (.undefined, none)
  | some log =>
      -- under every policy, and without a flush
      let log := log.critical ("Exception! " ++ exc.what strerror)
      match policy with
      | .throwException | .logAndThrowException => (.throws exc.sliced, some log)
      | .logAndCallHandler => (if handler then .callsHandler exc else .aborts, some log)
      | .logAndAbort => (.aborts, some log)

/-- Under every policy the log is written to in the same way, once. -/
theorem axzlThrow_log (policy : UnrecoverableErrorPolicy) (handler : Bool) (strerror : Rc → String)
    (log : Log) (exc : Exc) :
    (axzlThrow policy handler strerror (some log) exc).2 =
      some (log.critical ("Exception! " ++ exc.what strerror)) := by
  cases policy <;> rfl

/-- What leaves `Throw` under a throwing policy. -/
theorem axzlThrow_of_throws {policy : UnrecoverableErrorPolicy} (hpolicy : policy.Throws)
    (handler : Bool) (strerror : Rc → String) (log : Option Log) (exc : Exc) :
    (axzlThrow policy handler strerror log exc).1 =
      if log.isSome then .throws .exception else .undefined := by
  cases log with
  | none => rfl
  | some log =>
      cases policy with
      | throwException => rfl
      | logAndThrowException => rfl
      | logAndCallHandler => exact hpolicy.elim
      | logAndAbort => exact hpolicy.elim

end AxzlCore

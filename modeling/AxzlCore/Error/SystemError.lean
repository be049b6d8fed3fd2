import AxzlCore.Library.Errno

/-!
# `Error.hpp` — the exception of a failing OS call

`ThrowSystemError` builds one `std::system_error` and hands it to `Axzl::Throw`.  The model keeps what the
exception carries: its error number and its text.
-/

set_option autoImplicit false

namespace AxzlCore

open Errno

/-- `std::system_error` in the system category: the error number and the text passed for it. -/
structure SystemError where
  code : Rc
  whatArg : String
  deriving DecidableEq, Repr

/-- `ThrowSystemError(name, log, where, rc, what)`: the exception handed to `Throw`. -/
def throwSystemError (name loc : String) (rc : Rc) (what : String) : SystemError where
  code := rc
  whatArg := name ++ "@" ++ loc ++ ": " ++ what

@[simp] theorem throwSystemError_code (name loc : String) (rc : Rc) (what : String) :
    (throwSystemError name loc rc what).code = rc := rfl

/-- The exception comes from a call of `ThrowSystemError` on a failure. -/
def SystemError.IsThrown (e : SystemError) : Prop :=
  ∃ name loc rc what, rc ≠ 0 ∧ e = throwSystemError name loc rc what

theorem isThrown_of_ne {rc : Rc} (hrc : rc ≠ 0) (name loc what : String) :
    (throwSystemError name loc rc what).IsThrown := ⟨name, loc, rc, what, hrc, rfl⟩

end AxzlCore

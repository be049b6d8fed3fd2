/-!
# Error numbers

The POSIX error numbers the development mentions, with their Linux values.  A `pthread_*` function
returns `0` or one of these; the older system calls return `-1` and leave the number in `errno`
(`Syscall`).
-/

set_option autoImplicit false

namespace Errno

/-- The type of a `pthread_*` return value: the C `int`. -/
abbrev Rc := Int

def EPERM : Rc := 1
def ESRCH : Rc := 3
def EAGAIN : Rc := 11
def ENOMEM : Rc := 12
def EBUSY : Rc := 16
def EINVAL : Rc := 22
def EDEADLK : Rc := 35
def ETIMEDOUT : Rc := 110
def EOWNERDEAD : Rc := 130
def ENOTRECOVERABLE : Rc := 131

/-- The outcome of a system call that is not one of the `pthread_*` functions. -/
inductive Syscall
  | done
  | failed (errno : Rc)
  deriving DecidableEq, Repr

/-- What such a call returns: its error number is in `errno`, not in the value. -/
def Syscall.value : Syscall → Rc
  | .done => 0
  | .failed _ => -1

/-- The error number of such a call, zero when it succeeds. -/
def Syscall.errno : Syscall → Rc
  | .done => 0
  | .failed errno => errno

/-- Error numbers are positive, so none of them is the value such a call returns. -/
def Syscall.NumberPositive (call : Syscall) : Prop := ∀ errno, call = .failed errno → 0 < errno

theorem Syscall.value_eq_zero {call : Syscall} : call.value = 0 ↔ call = .done := by
  cases call with
  | done => simp [Syscall.value]
  | failed errno => simp [Syscall.value]

end Errno

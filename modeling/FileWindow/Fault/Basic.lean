import FileWindow.FileError

/-!
# Faults

A fault is what a device answers when a call fails: an error number of the operating system, a
bare kind, a kind with a message, or the error of another windowed resource that stands in for
the device.

Main definitions:

- Definition Fault: the faults.
- Definition Fault.kind, Fault.errno: the kind of a fault, and the number kept for it.
- Definition FileError.ofFault: the error of an attempt that met a fault.
- Definition FileError.ofOpening: the error of an open that met a fault.

Main results:

- Theorem Fault.errno_carried: a carried error is kept by the number nearest to its kind.
- Theorem Fault.isInterruption_carried_ofFault: an interruption is still one when it is passed on.
-/

namespace FileWindow

/-- What a device answers when a call fails. -/
inductive Fault
  /-- The operating system failed with a number. -/
  | system (code : Errno)
  /-- A failure of which the kind is all that is known. -/
  | plain (kind : FaultKind)
  /-- A failure of a kind, with a message. -/
  | worded (kind : FaultKind) (text : String)
  /-- The error of a windowed resource, passed on. -/
  | carried (error : FileError)
  deriving DecidableEq, Repr

namespace Fault

/-- The kind of a fault. -/
def kind : Fault → FaultKind
  | system code => code.kind
  | plain kind => kind
  | worded kind _ => kind
  | carried error => error.kind

/-- The number that the system gave, if it was the system that failed. -/
def code : Fault → Option Errno
  | system code => some code
  | _ => none

/-- The number kept for a fault: its own, or the one nearest to its kind. -/
def errno (fault : Fault) : Errno :=
  fault.code.getD (Errno.nearest fault.kind)

/-- The error that a fault carries, if it carries one. -/
def payload : Fault → Option FileError
  | carried error => some error
  | _ => none

/-- The text of a fault. -/
def message : Fault → String
  | system code => code.describe
  | plain kind => kind.name
  | worded _ text => text
  | carried error => error.message

/-- An interrupted call has done nothing and may be made again. -/
def isInterruption (fault : Fault) : Bool :=
  fault.kind == .interrupted

/-- A number of the system is kept as it is. -/
@[simp] theorem errno_system (code : Errno) : (system code).errno = code :=
  rfl

/-- A carried error is kept by the number nearest to its kind. -/
theorem errno_carried (error : FileError) : (carried error).errno = Errno.nearest error.kind :=
  rfl

end Fault

namespace FileError

/-- The error of an attempt on the named resource that met a fault. -/
def ofFault (name : String) (attempt : Attempt) (fault : Fault) : FileError :=
  broken name attempt fault.errno

/-- The error of opening the named file.  A missing file is told apart only where the caller
expects the file to be there: for a file about to be created, not to be found says little. -/
def ofOpening (name : String) (reportMissing : Bool) (fault : Fault) : FileError :=
  match fault.kind, reportMissing with
  | .notFound, true => notFound name fault.errno
  | .alreadyExists, _ => alreadyExists name fault.errno
  | _, _ => ofFault name .opening fault

end FileError

namespace Fault

/-- An interruption is still one when it is told as an error and passed on, and nothing else
becomes one. -/
@[simp] theorem isInterruption_carried_ofFault (name : String) (attempt : Attempt)
    (fault : Fault) :
    (carried (.ofFault name attempt fault)).isInterruption = fault.isInterruption := by
  have hkind : (carried (.ofFault name attempt fault)).kind = fault.errno.kind := rfl
  rw [isInterruption, isInterruption, Bool.eq_iff_iff, beq_iff_eq, beq_iff_eq, hkind]
  cases fault with
  | system code => rfl
  | plain kind => exact Errno.kind_nearest_eq_interrupted_iff kind
  | worded kind text => exact Errno.kind_nearest_eq_interrupted_iff kind
  | carried error => exact Errno.kind_nearest_eq_interrupted_iff error.kind

/-- A refusal is no interruption. -/
@[simp] theorem isInterruption_carried_refused (name : String) (reason : Refusal) :
    (carried (.refused name reason)).isInterruption = false :=
  rfl

end Fault

end FileWindow

import FileWindow.Action

/-!
# Ending a resource

What becomes of a failure to close: after work that succeeded it is the failure of the whole,
after work that failed it is only put on record, and where a resource is dropped nobody can be
told, so it is put on record too.

Main definitions:

- Definition Teardown.closeAfter: closes once the result of some work is known.
- Definition Teardown.reportOnDrop: what a drop does with the result of closing.
-/

namespace FileWindow.Teardown

variable {ε ρ σ α : Type}

/-- Closes once the result of some work is known.  The first failure is the one passed on. -/
def closeAfter (close : Action FileError ρ σ Unit) (result : Except FileError α) :
    Action FileError ρ σ α := do
  match result with
  | .ok value =>
    close
    return value
  | .error first =>
    match ← Action.observe close with
    | .ok () => Action.fail first
    | .error closeError =>
      Action.report (.closeSuppressed closeError first)
      Action.fail first

/-- Puts a failure to close on record where a resource of a name is dropped.  While another
failure is on its way it is a detail, otherwise an error. -/
def reportOnDrop (name : String) (unwinding : Bool) : Except FileError Unit → Action ε ρ σ Unit
  | .ok () => pure ()
  | .error error =>
    Action.report <|
      if unwinding then .closeFailedUnwinding name error else .closeFailedOnDrop name error

end FileWindow.Teardown

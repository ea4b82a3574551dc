import FileWindow.Action

/-!
# Outcomes of operations

Operations on resources answer values of a few shapes, and fail as windowed resources do or as
devices do.

Main definitions:

- Definition Value: what operations answer.
- Definition Problem: how operations fail.
- Definition Action.native, Action.foreign: actions with their failures as problems.
-/

namespace FileWindow

/-- What operations answer. -/
inductive Value
  /-- Nothing but that it is done, or nothing at all. -/
  | nothing
  | flag (flag : Bool)
  | number (number : Nat)
  | bytes (bytes : Bytes)
  /-- Bytes that were read, to be counted. -/
  | counted (bytes : Bytes)
  | word (word : String)
  /-- What a stream holds, and where its cursor stands. -/
  | contents (cursor : Nat) (data : Bytes)
  deriving DecidableEq, Repr

/-- How operations fail. -/
inductive Problem
  /-- As a windowed resource does. -/
  | error (error : FileError)
  /-- As a device does. -/
  | fault (fault : Fault)
  deriving DecidableEq, Repr

namespace Action

variable {ρ σ α : Type}

/-- An action of a windowed resource, with a value made of its answer. -/
def native (value : α → Value) (action : Action FileError ρ σ α) : Action Problem ρ σ Value :=
  value <$> action.mapError .error

/-- An action that fails as a device does, with a value made of its answer. -/
def foreign (value : α → Value) (action : Action Fault ρ σ α) : Action Problem ρ σ Value :=
  value <$> action.mapError .fault

/-- Where the action answers, so does the operation. -/
theorem native_of_ok {action : Action FileError ρ σ α} {frame after : Frame ρ σ} {answer : α}
    (value : α → Value) (h : action frame = .ok answer after) :
    native value action frame = .ok (value answer) after := by
  simp [native, mapError, h, Functor.map, EStateM.map]

/-- Where the action fails, so does the operation. -/
theorem native_of_failed {action : Action FileError ρ σ α} {frame after : Frame ρ σ}
    {error : FileError} (value : α → Value) (h : action frame = .error (.failed error) after) :
    native value action frame = .error (.failed (.error error)) after := by
  simp [native, mapError, h, Functor.map, EStateM.map, Stop.map]

theorem foreign_of_ok {action : Action Fault ρ σ α} {frame after : Frame ρ σ} {answer : α}
    (value : α → Value) (h : action frame = .ok answer after) :
    foreign value action frame = .ok (value answer) after := by
  simp [foreign, mapError, h, Functor.map, EStateM.map]

end Action

/-- Done, and nothing to answer. -/
def Value.done : Unit → Value := fun _ => .nothing

/-- How many bytes there are. -/
def Value.amount (bytes : Bytes) : Value := .number bytes.length

end FileWindow

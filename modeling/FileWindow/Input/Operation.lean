import FileWindow.Adapter
import FileWindow.Outcome

/-!
# Operations on inputs

All that can be asked of an input, as data, and what each of it does.

Main definitions:

- Definition Input.Operation: the operations.
- Definition Input.perform: what an operation does.
- Definition Input.run: what a row of operations does, each with its outcome.
-/

namespace FileWindow.Input

/-- What can be asked of an input.  The operations whose names begin with stream go through the
adapter. -/
inductive Operation
  | seek (distance : Int) (whence : Whence)
  | tell
  | size
  | setExtent (offset : Nat) (length : ExtentLength)
  | unsetExtent
  | read (length room : Nat)
  | readExactly (length room : Nat)
  | readThenClose (length : Nat)
  | close
  | closeAfter (result : Except FileError Nat)
  | streamSeek (target : RawSeek)
  | streamPosition
  | streamRewind
  | streamRead (length : Nat)
  | streamReadExactly (length : Nat)
  | streamReadToEnd

variable {σ : Type}

/-- What an operation does. -/
def perform (device : Device σ) : Operation → Action Problem Input σ Value
  | .seek distance whence => .native .number (seek device distance whence)
  | .tell => .native .number (tell device)
  | .size => .native .number size
  | .setExtent offset length => .native .done (setExtent device offset length)
  | .unsetExtent => .native .number (unsetExtent device)
  | .read length room => .native .counted (read device length room)
  | .readExactly length room => .native .counted (readExactly device length room)
  | .readThenClose length => .native .amount do
    closeAfter device (← Action.observe (readExactly device length length))
  | .close => .native .done (close device)
  | .closeAfter result => .native .number (closeAfter device result)
  | .streamSeek target => .foreign .number (Adapter.seek (seek device) target)
  | .streamPosition => .foreign .number (Adapter.position (seek device))
  | .streamRewind => .foreign .done (Adapter.rewind (seek device))
  | .streamRead length => .foreign .counted (Adapter.read device length)
  | .streamReadExactly length => .foreign .bytes (Adapter.readExactly device length)
  | .streamReadToEnd => .foreign .counted (Adapter.readToEnd device)

/-- What a row of operations does, one after the other whatever becomes of each, and the outcome
of each. -/
def run (device : Device σ) (operations : List Operation) :
    Action Problem Input σ (List (Except Problem Value)) :=
  operations.mapM fun operation => Action.observe (perform device operation)

end FileWindow.Input

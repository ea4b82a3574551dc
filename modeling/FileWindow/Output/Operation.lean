import FileWindow.Adapter
import FileWindow.Outcome

/-!
# Operations on outputs

All that can be asked of an output, as data, and what each of it does.

Main definitions:

- Definition Output.Operation: the operations.
- Definition Output.perform: what an operation does.
- Definition Output.run: what a row of operations does, each with its outcome.
-/

namespace FileWindow.Output

/-- What can be asked of an output.  The operations whose names begin with stream go through the
adapter. -/
inductive Operation
  | seek (distance : Int) (whence : Whence)
  | tell
  | size
  | setExtent (offset : Nat) (length : ExtentLength)
  | unsetExtent
  | write (buffer : Bytes) (length : Nat)
  | overwrite (buffer : Bytes) (length : Nat)
  | writeThenClose (buffer : Bytes) (length : Nat)
  | flush
  | close
  | closeAfter (result : Except FileError Nat)
  | streamSeek (target : RawSeek)
  | streamPosition
  | streamRewind
  | streamWrite (bytes : Bytes)
  | streamWriteAll (bytes : Bytes)
  | streamFlush

variable {σ : Type}

/-- What an operation does. -/
def perform (device : Device σ) : Operation → Action Problem Output σ Value
  | .seek distance whence => .native .number (seek device distance whence)
  | .tell => .native .number (tell device)
  | .size => .native .number (size device)
  | .setExtent offset length => .native .done (setExtent device offset length)
  | .unsetExtent => .native .number (unsetExtent device)
  | .write buffer length => .native .done (write device buffer length)
  | .overwrite buffer length => .native .done (overwrite device buffer length)
  | .writeThenClose buffer length => .native .done do
    closeAfter device (← Action.observe (write device buffer length))
  | .flush => .native .done (flush device)
  | .close => .native .done (close device)
  | .closeAfter result => .native .number (closeAfter device result)
  | .streamSeek target => .foreign .number (Adapter.seek (seek device) target)
  | .streamPosition => .foreign .number (Adapter.position (seek device))
  | .streamRewind => .foreign .done (Adapter.rewind (seek device))
  | .streamWrite bytes => .foreign .number (Adapter.write device bytes)
  | .streamWriteAll bytes => .foreign .done (Adapter.writeAll device bytes)
  | .streamFlush => .foreign .done (Adapter.flush device)

/-- What a row of operations does, one after the other whatever becomes of each, and the outcome
of each. -/
def run (device : Device σ) (operations : List Operation) :
    Action Problem Output σ (List (Except Problem Value)) :=
  operations.mapM fun operation => Action.observe (perform device operation)

end FileWindow.Output

import FileWindow.Teardown
import FileWindow.Window

/-!
# Outputs

An output is a writable resource that shows an extent of its device.  Besides the extent it
counts the bytes that went through it; where the device cannot be measured, that count is its
size.

Main definitions:

- Definition Output: a closed output, or an open one with its window and its count.
- Definition Writer.aim, Writer.count: how seeks and writes change the count and the extent.
- Definition Output.seek, Output.tell, Output.size: positions and size.
- Definition Output.write, Output.overwrite: writing, counted and not counted.
- Definition Output.close, Output.detach, Output.drop: the end.
-/

namespace FileWindow

/-- What an open output knows of itself. -/
structure Writer where
  window : Window
  written : Nat
  deriving DecidableEq, Repr

/-! ## Bookkeeping -/

namespace Writer

/-- The writer with another length of its extent. -/
def withLength (writer : Writer) (length : Nat) : Writer :=
  { writer with window.extent.length := length }

/-- The books for a seek that is about to be made.  A seek from the start counts everything up
to its target as written, since the next write lands there.  The end is where the count ends. -/
def aim (writer : Writer) (distance : Int) : Whence → Writer
  | .current => writer
  | .finish => writer.withLength writer.written
  | .start =>
    let written := max writer.written distance.toNat
    { writer with written }.withLength written

/-- The books after so many bytes were written. -/
def count (writer : Writer) (length : Nat) : Writer :=
  let written := writer.written + length
  { writer with written }.withLength (max writer.window.extent.length written)

end Writer

/-- A writable resource. -/
inductive Output
  | closed
  | opened (writer : Writer)
  deriving DecidableEq, Repr

namespace Output

variable {ε ρ σ α : Type}

/-! ## Views -/

/-- Whether a device is attached. -/
def isOpen : Output → Bool
  | closed => false
  | opened _ => true

/-- The name, empty once closed. -/
def name : Output → String
  | closed => ""
  | opened writer => writer.window.name

/-- The extent, empty once closed. -/
def extent : Output → Extent
  | closed => .empty
  | opened writer => writer.window.extent

/-- The bytes counted since opening or since the extent last changed; zero once closed. -/
def written : Output → Nat
  | closed => 0
  | opened writer => writer.written

/-! ## Opening -/

/-- The output on a device.  Its extent is the whole of a device that can be measured. -/
def attach (device : Device σ) (name : String) : Action FileError ρ σ Output := do
  let size ← Action.call name .querySize device.size
  return opened ⟨← Window.attach name (size.getD 0), 0⟩

/-- What the open output knows, for an operation that asks for an open one. -/
def writer (operation : OpenOperation) : Action FileError Output σ Writer := do
  match ← Action.book with
  | closed => Action.refuse "" (.notOpen operation)
  | opened writer => pure writer

/-! ## Positions and sizes -/

/-- Moves to a position within the extent and answers it.  The books that the seek calls for are
kept only if it succeeds. -/
def seek (device : Device σ) (distance : Int) (whence : Whence) :
    Action FileError Output σ Nat := do
  let writer ← writer .seek
  let aimed := writer.aim distance whence
  let position ← aimed.window.seek device distance whence none
  Action.setBook (opened aimed)
  return position

/-- The position within the extent. -/
def tell (device : Device σ) : Action FileError Output σ Nat := do
  let writer ← writer .tell
  writer.window.tell device

/-- The size of the raw data where it can be measured, the count where it cannot.  Standard
output always counts. -/
def size (device : Device σ) : Action FileError Output σ Nat := do
  match ← Action.book with
  | closed => return 0
  | opened writer =>
    if device.isStandardOutput then return writer.written
    else return (← writer.window.rawSize device).getD writer.written

/-- Sets the extent anew and starts to count anew; the cursor stays where it is. -/
def setExtent (device : Device σ) (offset : Nat) (length : ExtentLength) :
    Action FileError Output σ Unit := do
  let writer ← writer (if length = .rest then .sizeQuery else .setExtent)
  let window ← writer.window.narrow device offset length
  Action.setBook (opened ⟨window, 0⟩)

/-- Makes the whole of the raw data the extent and counts it as written, leaves the cursor at
its end, and answers its length. -/
def unsetExtent (device : Device σ) : Action FileError Output σ Nat := do
  let writer ← writer .unsetExtent
  let window ← writer.window.widen device
  Action.setBook (opened ⟨window, window.extent.length⟩)
  return window.extent.length

/-! ## Writing -/

/-- Writes so many bytes of a buffer and counts them.  Writing no bytes does nothing, whatever
the buffer is. -/
def write (device : Device σ) (buffer : Bytes) (length : Nat) :
    Action FileError Output σ Unit := do
  let writer ← writer .write
  if length = 0 then pure ()
  else if !validLength length || length > buffer.length then
    Action.refuse writer.window.name .writeLength
  else
    writer.window.write device (buffer.take length)
    if writer.written + length < positionLimit then
      let counted := writer.count length
      Action.setBook (opened counted)
      Action.report (.didWrite writer.window.name length counted.written)
    else Action.overflow

/-- Overwrites bytes in place: a write after which the books are as they were.  Standard output
has no place to go back to. -/
def overwrite (device : Device σ) (buffer : Bytes) (length : Nat) :
    Action FileError Output σ Unit := do
  let before ← Action.book
  if before.isOpen && device.isStandardOutput then
    Action.fail (.misuse s!"{before.name}: rewrite is not possible on standard output")
  else
    write device buffer length
    Action.setBook before

/-- Passes on what the device has buffered.  A closed output has nothing to pass on. -/
def flush (device : Device σ) : Action FileError Output σ Unit := do
  match ← Action.book with
  | closed => pure ()
  | opened writer => writer.window.flush device

/-! ## Closing -/

/-- Flushes and releases the device.  The release is made even where the flush failed, and the
first of the two failures is passed on. -/
def close (device : Device σ) : Action FileError Output σ Unit := do
  match ← Action.book with
  | closed => pure ()
  | opened writer =>
    let flushed ← Action.observe (writer.window.flush device)
    Action.setBook closed
    let released ← Action.observe (writer.window.release device)
    Action.ofExcept flushed
    Action.ofExcept released

/-- Closes once the result of some work is known. -/
def closeAfter (device : Device σ) (result : Except FileError α) :
    Action FileError Output σ α :=
  Teardown.closeAfter (close device) result

/-- Flushes and lets go of the device without releasing it. -/
def detach (device : Device σ) : Action FileError Output σ Unit := do
  let writer ← writer .intoStream
  writer.window.flush device
  Action.setBook closed

/-- Gives the output up.  One that is still open is closed, and nobody is told of a failure but
the journal. -/
def drop (device : Device σ) (unwinding : Bool) : Action ε Output σ Unit := do
  match ← Action.book with
  | closed => pure ()
  | opened writer =>
    Teardown.reportOnDrop writer.window.name unwinding (← Action.observe (close device))

end Output

end FileWindow

import FileWindow.Teardown
import FileWindow.Window

/-!
# Inputs

An input is a readable resource that shows an extent of its device.  It never reads past the end
of the extent, and a seek that would land past it fails: the caller would trust data that was
never there.  The length seen when the device was bound is kept.

Main definitions:

- Definition Input: a closed input, or an open one with its window and its size at opening.
- Definition Input.attach: the input on a device that can be measured.
- Definition Input.seek, Input.tell, Input.size: positions and size within the extent.
- Definition Input.setExtent, Input.unsetExtent: moving the extent.
- Definition Input.readTo: reading into a memory of the caller.
- Definition Input.read, Input.readInto, Input.readExactly: reading, and reading into a buffer.
- Definition Input.close, Input.drop: the end.
-/

namespace FileWindow

/-- What an open input knows of itself. -/
structure Reader where
  window : Window
  openingSize : Nat
  deriving DecidableEq, Repr

/-- A readable resource. -/
inductive Input
  | closed
  | opened (reader : Reader)
  deriving DecidableEq, Repr

namespace Input

variable {ε ρ σ α μ : Type}

/-! ## Views -/

/-- Whether a device is attached. -/
def isOpen : Input → Bool
  | closed => false
  | opened _ => true

/-- The name, empty once closed. -/
def name : Input → String
  | closed => ""
  | opened reader => reader.window.name

/-- The extent, empty once closed. -/
def extent : Input → Extent
  | closed => .empty
  | opened reader => reader.window.extent

/-- The size when the device was bound, whatever the extent; zero once closed. -/
def openingSize : Input → Nat
  | closed => 0
  | opened reader => reader.openingSize

/-! ## Opening -/

/-- The input on a device.  The device must be measurable: the extent is the whole of it. -/
def attach (device : Device σ) (name : String) : Action FileError ρ σ Input := do
  match ← Action.call name .querySize device.size with
  | none => Action.fail (.unmeasured name)
  | some size => return opened ⟨← Window.attach name size, size⟩

/-- What the open input knows, for an operation that asks for an open one. -/
def reader (operation : OpenOperation) : Action FileError Input σ Reader := do
  match ← Action.book with
  | closed => Action.refuse "" (.notOpen operation)
  | opened reader => pure reader

/-! ## Positions and sizes -/

/-- Moves to a position within the extent, its end included, and answers it. -/
def seek (device : Device σ) (distance : Int) (whence : Whence) :
    Action FileError Input σ Nat := do
  let reader ← reader .seek
  reader.window.seek device distance whence (some reader.window.extent.length)

/-- The position within the extent. -/
def tell (device : Device σ) : Action FileError Input σ Nat := do
  let reader ← reader .tell
  reader.window.tell device

/-- The length of the extent. -/
def size : Action FileError Input σ Nat := do
  return (← Action.book).extent.length

/-- Sets the extent anew; the cursor stays where it is. -/
def setExtent (device : Device σ) (offset : Nat) (length : ExtentLength) :
    Action FileError Input σ Unit := do
  let reader ← reader (if length = .rest then .sizeQuery else .setExtent)
  let window ← reader.window.narrow device offset length
  Action.setBook (opened { reader with window })

/-- Makes the whole of the raw data the extent, leaves the cursor at its end, and answers its
length. -/
def unsetExtent (device : Device σ) : Action FileError Input σ Nat := do
  let reader ← reader .unsetExtent
  let window ← reader.window.widen device
  Action.setBook (opened { reader with window })
  return window.extent.length

/-! ## Reading -/

/-- Reads up to so many bytes with room for some, stores them in the memory of the caller, and
answers how many there were.  One attempt is made; no bytes mean the end of the extent or of the
data, and leave the memory alone. -/
def readTo (store : μ → Bytes → μ) (device : Device σ) (length room : Nat) :
    Action FileError (Input × μ) σ Nat := do
  if !validLength length || length > room then
    Action.refuse (← Action.book).1.name .readLength
  else
    let reader ← Action.onFirst (reader .tell)
    let position ← Action.onFirst (reader.window.tell device)
    let wanted := min length (reader.window.extent.length - position)
    if wanted = 0 then return 0
    else
      let bytes ← Action.onFirst (reader.window.read device wanted)
      let books ← Action.book
      Action.setBook (books.1, store books.2 bytes)
      Action.report (.didRead reader.window.name bytes.length length position)
      return bytes.length

/-- A read to the front of a buffer of the caller. -/
def readInto (device : Device σ) (length : Nat) : Action FileError (Input × Bytes) σ Nat := do
  let room := (← Action.book).2.length
  readTo (fun buffer bytes => Bytes.overlay buffer 0 bytes) device length room

/-- A read with room for some bytes, which answers the bytes themselves. -/
def read (device : Device σ) (length room : Nat) : Action FileError Input σ Bytes :=
  Action.remembering [] (readTo (fun _ bytes => bytes) device length room)

/-- A read that answers its bytes, without the memory. -/
theorem read_eq (device : Device σ) (length room : Nat) :
    read device length room = (do
      if !validLength length || length > room then
        Action.refuse (← Action.book).name .readLength
      else
        let reader ← reader .tell
        let position ← reader.window.tell device
        let wanted := min length (reader.window.extent.length - position)
        if wanted = 0 then return []
        else
          let bytes ← reader.window.read device wanted
          Action.report (.didRead reader.window.name bytes.length length position)
          return bytes) := by
  unfold read readTo
  split
  · rfl
  rw [Action.remembering_onFirst_bind]
  congr 1
  funext reader
  rw [Action.remembering_onFirst_bind]
  congr 1
  funext position
  dsimp only
  split
  · rfl
  rw [Action.remembering_onFirst_bind]
  rfl

/-- Reads exactly so many bytes, or fails at the end of the input. -/
def readExactly (device : Device σ) (length room : Nat) : Action FileError Input σ Bytes := do
  let bytes ← read device length room
  if bytes.length = length then return bytes
  else Action.fail (.endOfInput (← Action.book).name)

/-! ## Closing -/

/-- Releases the device.  A closed input has nothing to release. -/
def close (device : Device σ) : Action FileError Input σ Unit := do
  match ← Action.book with
  | closed => pure ()
  | opened reader =>
    Action.setBook closed
    reader.window.release device

/-- Closes once the result of some work is known. -/
def closeAfter (device : Device σ) (result : Except FileError α) : Action FileError Input σ α :=
  Teardown.closeAfter (close device) result

/-- Gives the input up.  One that is still open is closed, and nobody is told of a failure but
the journal. -/
def drop (device : Device σ) (unwinding : Bool) : Action ε Input σ Unit := do
  match ← Action.book with
  | closed => pure ()
  | opened reader =>
    Teardown.reportOnDrop reader.window.name unwinding (← Action.observe (close device))

end Input

end FileWindow

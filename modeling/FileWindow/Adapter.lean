import FileWindow.Input
import FileWindow.Output
import FileWindow.Transfer.Growth

/-!
# Resources as plain streams

Through the adapter a windowed resource is used as a plain stream of bytes: it reads and writes
as much as it is given room for, seeks in the terms of streams, and fails with faults, so that it
can in turn serve as a device.  Every call goes through the windowed operations; positions and
the end of the data are those of the extent.

Main definitions:

- Definition Adapter.seek: a seek in the terms of streams.
- Definition Adapter.read, Adapter.readExactly, Adapter.readToEnd: reading.
- Definition Adapter.write, Adapter.writeAll, Adapter.flush: writing.
-/

namespace FileWindow.Adapter

variable {ε ρ σ α : Type}

/-- An action of a resource whose errors are passed on as faults. -/
def passing (action : Action FileError ρ σ α) : Action Fault ρ σ α :=
  action.mapError .carried

/-! ## Seeking -/

/-- The first offset from the start that no signed distance holds. -/
def offsetLimit : Nat := 0x8000000000000000

/-- A seek in the terms of streams, by way of a seek of the resource. -/
def seek (move : Int → Whence → Action FileError ρ σ Nat) : RawSeek → Action Fault ρ σ Nat
  | .start position =>
    if position < offsetLimit then passing (move position .start)
    else Action.fail (.worded .invalidInput "seek offset too large")
  | .current distance => passing (move distance .current)
  | .finish distance => passing (move distance .finish)

/-- Asks for the position, which is a seek that goes nowhere. -/
def position (move : Int → Whence → Action FileError ρ σ Nat) : Action Fault ρ σ Nat :=
  seek move (.current 0)

/-- Goes back to the start. -/
def rewind (move : Int → Whence → Action FileError ρ σ Nat) : Action Fault ρ σ Unit := do
  let _ ← seek move (.start 0)

/-! ## Reading -/

/-- Reads up to so many bytes, as many as one operation accepts. -/
def read (device : Device σ) (length : Nat) : Action Fault Input σ Bytes :=
  passing (Input.read device (min length maxTransfer) length)

/-- Reads exactly so many bytes. -/
def readExactly (device : Device σ) (length : Nat) : Action Fault Input σ Bytes := do
  let patience ← Action.patience device
  Transfer.fill (read device) (length + patience + 1) length

/-- More rounds than a loop over an input can need: each moves within the extent, is
interrupted, or is the last. -/
def rounds (device : Device σ) : Action ε Input σ Nat := do
  return (← Action.book).extent.length + (← Action.patience device) + 2

/-- Reads everything up to the end of the extent. -/
def readToEnd (device : Device σ) : Action Fault Input σ Bytes := do
  let rounds ← rounds device
  Transfer.collect (read device) rounds rounds

/-! ## Writing -/

/-- Writes as much of the bytes as one operation accepts, and answers how much that was. -/
def write (device : Device σ) (bytes : Bytes) : Action Fault Output σ Nat := do
  let length := min bytes.length maxTransfer
  passing (Output.write device bytes length)
  return length

/-- Writes all of the bytes. -/
def writeAll (device : Device σ) (bytes : Bytes) : Action Fault Output σ Unit := do
  let patience ← Action.patience device
  Transfer.drain (write device) (bytes.length + patience + 1) bytes

/-- Passes on what is buffered. -/
def flush (device : Device σ) : Action Fault Output σ Unit :=
  passing (Output.flush device)

end FileWindow.Adapter

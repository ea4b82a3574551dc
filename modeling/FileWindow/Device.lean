import FileWindow.Bytes
import FileWindow.Fault.Basic

/-!
# Devices

A device is what a windowed resource stands on: it can be positioned, measured, read, written,
flushed and released, and each of these may fail.  A device acts on a world; nothing is assumed
of what its calls do.

Main definitions:

- Definition Call: one call of a device, which changes the world and answers or fails.
- Definition Device: the calls of a device.
- Definition Device.readPatiently: a read that is made again when it is interrupted.
- Definition Device.within: a device as part of a larger world.
-/

namespace FileWindow

/-! ## Calls -/

/-- One call of a device: it changes the world, and answers or fails. -/
abbrev Call (σ α : Type) := EStateM Fault σ α

/-- A call on a part of a larger world. -/
def Call.within {σ τ α : Type} (get : τ → σ) (put : σ → τ → τ) (call : Call σ α) : Call τ α :=
  fun world =>
    match call (get world) with
    | .ok value part => .ok value (put part world)
    | .error fault part => .error fault (put part world)

/-- A change of the world that may be refused, which then leaves it as it was. -/
def Call.update {σ : Type} (change : σ → Except Fault σ) : Call σ Unit :=
  fun world =>
    match change world with
    | .ok changed => .ok () changed
    | .error fault => .error fault world

/-- Where a raw cursor is sent. -/
inductive RawSeek
  /-- To a position. -/
  | start (position : Nat)
  /-- Some way from where it stands. -/
  | current (distance : Int)
  /-- Some way from the end. -/
  | finish (distance : Int)
  deriving DecidableEq, Repr

/-- The calls of a device on a world.  A read is one attempt; no bytes mean the end of the data.
A write is of the whole buffer.  The size is none where it cannot be known. -/
structure Device (σ : Type) where
  /-- Moves the cursor and tells where it stands. -/
  seek : RawSeek → Call σ Nat
  /-- Measures the whole of the raw data. -/
  size : Call σ (Option Nat)
  /-- Reads up to so many bytes. -/
  read : Nat → Call σ Bytes
  /-- Writes all of the bytes, or fails. -/
  write : Bytes → Call σ Unit
  /-- Passes on what has been buffered. -/
  flush : Call σ Unit
  /-- Releases the device. -/
  close : Call σ Unit
  /-- Whether this is standard output. -/
  isStandardOutput : Bool
  /-- A bound on the interruptions of reads that are still to come. -/
  retries : σ → Nat
  /-- A bound on the interruptions of other calls that are still to come. -/
  patience : σ → Nat

namespace Device

variable {σ τ : Type}

/-- Tells where the cursor stands. -/
def position (device : Device σ) : Call σ Nat :=
  device.seek (.current 0)

/-- A read that is made again while it is interrupted, a given number of times at most; the last
answer stands, whatever it is. -/
def readRetrying (device : Device σ) (length : Nat) : Nat → Call σ Bytes
  | 0 => device.read length
  | retries + 1 => fun world =>
    match device.read length world with
    | .ok bytes world => .ok bytes world
    | .error fault world =>
      if fault.isInterruption then device.readRetrying length retries world
      else .error fault world

/-- A read that is made again as long as it is interrupted. -/
def readPatiently (device : Device σ) (length : Nat) : Call σ Bytes :=
  fun world => device.readRetrying length (device.retries world) world

/-- A device as part of a larger world: it sees and changes its own part. -/
def within (get : τ → σ) (put : σ → τ → τ) (device : Device σ) : Device τ where
  seek target := Call.within get put (device.seek target)
  size := Call.within get put device.size
  read length := Call.within get put (device.read length)
  write bytes := Call.within get put (device.write bytes)
  flush := Call.within get put device.flush
  close := Call.within get put device.close
  isStandardOutput := device.isStandardOutput
  retries world := device.retries (get world)
  patience world := device.patience (get world)

end Device

end FileWindow

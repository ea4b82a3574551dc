import FileWindow.Device

/-!
# Standard output

Standard output keeps what is written to it until a line is complete, its buffer is full, or it
is flushed.  What it stands on takes everything or, if it is full, nothing; what could not go out
stays in the buffer.  It can be neither positioned nor measured nor read, and it is never closed:
releasing it flushes it.

Main definitions:

- Definition Console: the buffer, what has gone out, and what it stands on.
- Definition Console.writeAll: writes all of some bytes.
- Definition Console.device: standard output as a device.
-/

namespace FileWindow

/-- What standard output stands on. -/
inductive ConsoleSink
  /-- Takes everything. -/
  | file
  /-- Takes nothing. -/
  | full
  /-- Takes everything and is a terminal. -/
  | terminal
  deriving DecidableEq, Repr

/-- Standard output: what it stands on, what it has kept back, and what has gone out. -/
structure Console where
  sink : ConsoleSink
  buffer : Bytes
  delivered : Bytes
  deriving DecidableEq, Repr

namespace Console

/-- Standard output before anything is written. -/
def fresh (sink : ConsoleSink) : Console := ⟨sink, [], []⟩

/-- Whether standard output is a terminal. -/
def isTerminal (console : Console) : Bool :=
  console.sink == .terminal

/-- The room in the buffer. -/
def capacity : Nat := 1024

/-- The byte that completes a line. -/
def newline : UInt8 := 10

/-- Hands bytes to what standard output stands on. -/
def deliver (bytes : Bytes) : Call Console Unit := fun console =>
  if bytes.isEmpty then .ok () console
  else
    match console.sink with
    | .full => .error (.system Errno.noSpace) console
    | _ => .ok () { console with delivered := console.delivered ++ bytes }

/-- Hands on what has been kept back, or keeps it. -/
def flush : Call Console Unit := do
  deliver (← get).buffer
  modify fun console => { console with buffer := [] }

/-- Keeps bytes back.  Bytes that do not fit make room first, and bytes for which there is no
room in an empty buffer go out at once. -/
def keep (bytes : Bytes) : Call Console Unit := do
  if (← get).buffer.length + bytes.length > capacity then flush
  if bytes.length ≥ capacity then deliver bytes
  else modify fun console => { console with buffer := console.buffer ++ bytes }

/-- The bytes up to the last completed line, and the bytes behind it. -/
def splitLines (bytes : Bytes) : Bytes × Bytes :=
  let inLine (byte : UInt8) : Bool := byte != newline
  ((bytes.reverse.dropWhile inLine).reverse, (bytes.reverse.takeWhile inLine).reverse)

/-- Writes all of some bytes.  Completed lines go out, after what was kept back before them; the
rest is kept back. -/
def writeAll (bytes : Bytes) : Call Console Unit := do
  let (lines, tail) := splitLines bytes
  let kept := (← get).buffer
  if lines.isEmpty then
    if kept.getLast? = some newline then flush
  else if kept.isEmpty then deliver lines
  else
    keep lines
    flush
  keep tail

/-- Standard output as a device.  Releasing it flushes it. -/
def device : Device Console where
  seek _ := throw (.system Errno.illegalSeek)
  size := pure none
  read _ := throw (.system Errno.badDescriptor)
  write := writeAll
  flush := flush
  close := flush
  isStandardOutput := true
  retries _ := 0
  patience _ := 0

end Console

end FileWindow

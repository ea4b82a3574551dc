import FileWindow.Input.Operation
import FileWindow.Output.Operation

/-!
# Requests to a resource

A step of a session asks something of a resource by its name in the session.  What the request
means depends on whether the resource is an input, an output or a bare device; this file gives
the operation that a request is for each of them, where it is one.

Main definitions:

- Definition Session.Request: what a step may ask of a resource.
- Definition Session.Request.toInput, Session.Request.toOutput: the operation that a request is.
- Definition Session.Request.toDevice: the call that a request is on a bare device.
-/

namespace FileWindow.Session

/-- The origin of a seek as a step gives it. -/
inductive Origin
  | named (whence : Whence)
  | numbered (number : Int)
  deriving DecidableEq, Repr

/-- The origin itself; a number may stand for none. -/
def Origin.whence : Origin → Except FileError Whence
  | named whence => .ok whence
  | numbered number => Whence.ofNumber number

/-- What a step may ask of a resource. -/
inductive Request
  | seek (distance : Int) (origin : Origin)
  | tell
  | size
  | setExtent (offset : Nat) (length : ExtentLength)
  | unsetExtent
  | close
  | closeAfter (result : Except FileError Nat)
  | read (length : Nat) (room : Option Nat)
  | readExactly (length : Nat) (room : Option Nat)
  | readThenClose (length : Nat)
  | write (data : Bytes) (length : Option Nat)
  | overwrite (data : Bytes) (length : Option Nat)
  | writeThenClose (data : Bytes) (length : Option Nat)
  | flush
  | streamSeek (target : RawSeek)
  | streamPosition
  | streamRewind
  | streamRead (length : Nat)
  | streamReadExactly (length : Nat)
  | streamReadToEnd
  | streamWrite (data : Bytes)
  | streamWriteAll (data : Bytes)
  | streamFlush
  /-- The position of a bare device. -/
  | position
  /-- The size of a bare device, if it can be known. -/
  | rawSize
  /-- Whether a bare device is standard output. -/
  | isStandardOutput

namespace Request

/-- The operation that a request is for an input, or why it is none. -/
def toInput : Request → Option (Except FileError Input.Operation)
  | seek distance origin => some (origin.whence.map fun whence => .seek distance whence)
  | tell => some (.ok .tell)
  | size => some (.ok .size)
  | setExtent offset length => some (.ok (.setExtent offset length))
  | unsetExtent => some (.ok .unsetExtent)
  | close => some (.ok .close)
  | closeAfter result => some (.ok (.closeAfter result))
  | read length room => some (.ok (.read length (room.getD length)))
  | readExactly length room => some (.ok (.readExactly length (room.getD length)))
  | readThenClose length => some (.ok (.readThenClose length))
  | streamSeek target => some (.ok (.streamSeek target))
  | streamPosition => some (.ok .streamPosition)
  | streamRewind => some (.ok .streamRewind)
  | streamRead length => some (.ok (.streamRead length))
  | streamReadExactly length => some (.ok (.streamReadExactly length))
  | streamReadToEnd => some (.ok .streamReadToEnd)
  | _ => none

/-- The operation that a request is for an output, or why it is none. -/
def toOutput : Request → Option (Except FileError Output.Operation)
  | seek distance origin => some (origin.whence.map fun whence => .seek distance whence)
  | tell => some (.ok .tell)
  | size => some (.ok .size)
  | setExtent offset length => some (.ok (.setExtent offset length))
  | unsetExtent => some (.ok .unsetExtent)
  | close => some (.ok .close)
  | closeAfter result => some (.ok (.closeAfter result))
  | write data length => some (.ok (.write data (length.getD data.length)))
  | overwrite data length => some (.ok (.overwrite data (length.getD data.length)))
  | writeThenClose data length => some (.ok (.writeThenClose data (length.getD data.length)))
  | flush => some (.ok .flush)
  | streamSeek target => some (.ok (.streamSeek target))
  | streamPosition => some (.ok .streamPosition)
  | streamRewind => some (.ok .streamRewind)
  | streamWrite data => some (.ok (.streamWrite data))
  | streamWriteAll data => some (.ok (.streamWriteAll data))
  | streamFlush => some (.ok .streamFlush)
  | _ => none

/-- Where a seek sends a raw cursor; a position from the start is never negative. -/
def rawTarget (distance : Int) : Origin → Option RawSeek
  | .named .start => if distance < 0 then none else some (.start distance.toNat)
  | .named .current => some (.current distance)
  | .named .finish => some (.finish distance)
  | .numbered _ => none

/-- The call that a request is on a bare device. -/
def toDevice {σ : Type} (device : Device σ) : Request → Option (Call σ Value)
  | seek distance origin =>
    (rawTarget distance origin).map fun target => .number <$> device.seek target
  | position => some (.number <$> device.position)
  | rawSize =>
    some ((fun size => size.elim .nothing .number) <$> device.size)
  | isStandardOutput => some (pure (.flag device.isStandardOutput))
  | read length _ => some (.counted <$> device.read length)
  | write data _ => some (.done <$> device.write data)
  | flush => some (.done <$> device.flush)
  | _ => none

end Request

end FileWindow.Session

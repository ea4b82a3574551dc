import FileWindow.Device
import FileWindow.Limits

/-!
# Scripted streams

A stream holds its data in memory and has a cursor, a capacity, and four plans.  Each call takes
the next entry of the plan for its kind; the entry may shorten the call, put the cursor somewhere,
or make the call fail.  When a plan has run out, and where an entry says so, the call does what a
stream in memory does.

Main definitions:

- Definition Stream: a stream with its plans.
- Definition Stream.read, Stream.seek, Stream.flush: one call each.
- Definition Stream.writeAll: writes all of some bytes, one call after the other.
- Definition Stream.size: measures by seeking to the end and back.
- Definition Stream.device: the stream as a device.

Main results:

- Theorem Stream.read_plain, Stream.seek_start_plain, Stream.writeAll_plain: what the calls do
  where no plan interferes.
-/

namespace FileWindow

/-- What a plan says about one call. -/
inductive Reply
  /-- The call does what it does without a plan. -/
  | asUsual
  /-- A transfer moves this many bytes at most; a seek lands at this position. -/
  | number (amount : Nat)
  /-- The call fails and changes nothing. -/
  | fails (fault : Fault)
  deriving DecidableEq, Repr

/-- A stream in memory with its plans.  Its capacity is none where it is unlimited. -/
structure Stream where
  data : Bytes
  cursor : Nat
  capacity : Option Nat
  seekable : Bool
  readPlan : List Reply
  writePlan : List Reply
  seekPlan : List Reply
  flushPlan : List Reply
  deriving DecidableEq, Repr

namespace Stream

/-- The stream over some bytes that no plan interferes with. -/
def plain (data : Bytes) (cursor : Nat) : Stream where
  data := data
  cursor := cursor
  capacity := none
  seekable := true
  readPlan := []
  writePlan := []
  seekPlan := []
  flushPlan := []

/-! ## Reading -/

/-- Takes up to so many bytes from the cursor on. -/
def take (stream : Stream) (length : Nat) : EStateM.Result Fault Stream Bytes :=
  let bytes := (stream.data.drop stream.cursor).take length
  .ok bytes { stream with cursor := stream.cursor + bytes.length }

/-- One call that reads up to so many bytes. -/
def read (length : Nat) : Call Stream Bytes := fun stream =>
  match stream.readPlan with
  | [] => stream.take length
  | reply :: readPlan =>
    let stream := { stream with readPlan }
    match reply with
    | .asUsual => stream.take length
    | .number most => stream.take (min length most)
    | .fails fault => .error fault stream

/-! ## Seeking -/

/-- The position that a seek asks for, which may be none at all. -/
def target (stream : Stream) : RawSeek → Int
  | .start position => position
  | .current distance => stream.cursor + distance
  | .finish distance => stream.data.length + distance

/-- Moves the cursor, if the stream can be positioned and the target is a position. -/
def move (stream : Stream) (target : RawSeek) : EStateM.Result Fault Stream Nat :=
  let position := stream.target target
  if !stream.seekable then .error (.plain .unsupported) stream
  else if position < 0 ∨ positionLimit ≤ position then .error (.plain .invalidInput) stream
  else .ok position.toNat { stream with cursor := position.toNat }

/-- One call that moves the cursor. -/
def seek (target : RawSeek) : Call Stream Nat := fun stream =>
  match stream.seekPlan with
  | [] => stream.move target
  | reply :: seekPlan =>
    let stream := { stream with seekPlan }
    match reply with
    | .asUsual => stream.move target
    | .number position => .ok position { stream with cursor := position }
    | .fails fault => .error fault stream

/-- Measures the stream by seeking to its end and back.  A stream that does not tell where it is
or where it ends has no known size; one that does not come back has failed. -/
def size : Call Stream (Option Nat) := fun stream =>
  match seek (.current 0) stream with
  | .error _ stream => .ok none stream
  | .ok saved stream =>
    match seek (.finish 0) stream with
    | .error _ stream => .ok none stream
    | .ok length stream =>
      match seek (.start saved) stream with
      | .error fault stream => .error fault stream
      | .ok _ stream => .ok (some length) stream

/-! ## Writing -/

/-- How many bytes still fit behind the cursor, of so many. -/
def accepted (stream : Stream) (length : Nat) : Nat :=
  match stream.capacity with
  | none => length
  | some capacity => min length (capacity - stream.cursor)

/-- The stream after it took some bytes at the cursor. -/
def put (stream : Stream) (bytes : Bytes) : Stream :=
  { stream with
    data := Bytes.overlay stream.data stream.cursor bytes
    cursor := stream.cursor + bytes.length }

/-- Writes all of some bytes by calls that follow a plan.  An interrupted call is made again; a
call that accepts nothing is a failure.  Behind the plan one call takes what fits, and if that is
not all of it the next accepts nothing. -/
def writeBy : List Reply → Bytes → Call Stream Unit
  | writePlan, [] => fun stream => .ok () { stream with writePlan }
  | [], byte :: rest => fun stream =>
    let bytes := byte :: rest
    let count := stream.accepted bytes.length
    let stream := { stream.put (bytes.take count) with writePlan := [] }
    if count = bytes.length then .ok () stream else .error (.plain .writeZero) stream
  | reply :: writePlan, byte :: rest => fun stream =>
    let bytes := byte :: rest
    let moving (count : Nat) : EStateM.Result Fault Stream Unit :=
      if count = 0 then .error (.plain .writeZero) { stream with writePlan }
      else writeBy writePlan (bytes.drop count) (stream.put (bytes.take count))
    match reply with
    | .asUsual => moving (stream.accepted bytes.length)
    | .number most => moving (min most (stream.accepted bytes.length))
    | .fails fault =>
      if fault.isInterruption then writeBy writePlan bytes stream
      else .error fault { stream with writePlan }

/-- Writes all of some bytes, one call after the other. -/
def writeAll (bytes : Bytes) : Call Stream Unit := fun stream =>
  writeBy stream.writePlan bytes stream

/-- One call that passes on what is buffered, which is nothing. -/
def flush : Call Stream Unit := fun stream =>
  match stream.flushPlan with
  | [] => .ok () stream
  | reply :: flushPlan =>
    let stream := { stream with flushPlan }
    match reply with
    | .fails fault => .error fault stream
    | _ => .ok () stream

/-! ## The stream as a device -/

/-- The stream as a device.  Releasing it leaves it as it is. -/
def device : Device Stream where
  seek := seek
  size := size
  read := read
  write := writeAll
  flush := flush
  close := pure ()
  isStandardOutput := false
  retries stream := stream.readPlan.length
  patience stream := stream.seekPlan.length

/-- The stream with its data cut or zero-extended; the cursor stays where it is. -/
def resize (stream : Stream) (length : Nat) : Stream :=
  { stream with data := Bytes.resize stream.data length }

/-! ## Without a plan -/

/-- A read without a plan takes the bytes from the cursor on. -/
theorem read_plain (data : Bytes) (cursor length : Nat) :
    read length (plain data cursor) =
      .ok ((data.drop cursor).take length)
        (plain data (cursor + ((data.drop cursor).take length).length)) :=
  rfl

/-- A seek without a plan to a position lands there. -/
theorem seek_start_plain (data : Bytes) (cursor : Nat) {position : Nat}
    (h : position < positionLimit) :
    seek (.start position) (plain data cursor) = .ok position (plain data position) := by
  simp [seek, plain, move, target]
  omega

/-- Through the device it lands there as well. -/
theorem device_seek_plain (data : Bytes) (cursor : Nat) {position : Nat}
    (h : position < positionLimit) :
    device.seek (.start position) (plain data cursor) = .ok position (plain data position) :=
  seek_start_plain data cursor h

/-- Asking for the cursor without a plan answers it. -/
theorem position_plain (data : Bytes) {cursor : Nat} (h : cursor < positionLimit) :
    device.position (plain data cursor) = .ok cursor (plain data cursor) := by
  simp [Device.position, device, seek, plain, move, target]
  omega

/-- A read without a plan is never made again. -/
theorem readPatiently_plain (data : Bytes) (cursor length : Nat) :
    device.readPatiently length (plain data cursor) =
      .ok ((data.drop cursor).take length)
        (plain data (cursor + ((data.drop cursor).take length).length)) :=
  rfl

/-- A write without a plan lays the bytes over the data at the cursor. -/
theorem writeAll_plain (data : Bytes) (cursor : Nat) (bytes : Bytes) :
    writeAll bytes (plain data cursor) =
      .ok () (plain (Bytes.overlay data cursor bytes) (cursor + bytes.length)) := by
  cases bytes with
  | nil => simp [writeAll, plain, writeBy]
  | cons first rest => simp [writeAll, plain, writeBy, accepted, put]

/-- Through the device it does so as well. -/
theorem device_write_plain (data : Bytes) (cursor : Nat) (bytes : Bytes) :
    device.write bytes (plain data cursor) =
      .ok () (plain (Bytes.overlay data cursor bytes) (cursor + bytes.length)) :=
  writeAll_plain data cursor bytes

/-- Without a plan the end is where the data end. -/
theorem seek_finish_plain (data : Bytes) (cursor : Nat) (h : data.length < positionLimit) :
    device.seek (.finish 0) (plain data cursor) = .ok data.length (plain data data.length) := by
  simp [device, seek, plain, move, target]
  omega

/-- Without a plan a stream is measured by going to its end and back. -/
theorem size_plain (data : Bytes) {cursor : Nat} (hcursor : cursor < positionLimit)
    (hdata : data.length < positionLimit) :
    device.size (plain data cursor) = .ok (some data.length) (plain data cursor) := by
  have hsaved : seek (.current 0) (plain data cursor) = .ok cursor (plain data cursor) :=
    position_plain data hcursor
  have hend : seek (.finish 0) (plain data cursor) = .ok data.length (plain data data.length) :=
    seek_finish_plain data cursor hdata
  simp only [device, size, hsaved, hend, seek_start_plain data data.length hcursor]

end Stream

end FileWindow

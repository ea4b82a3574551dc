import FileWindow.Bytes

/-!
# Contents of files

A file may be long and yet hold few bytes: what lies between two writes far apart is zeros that
nobody wrote.  Contents are kept as stretches, and a stretch of zeros is kept as its length.  What
contents hold is a byte string, and every operation is one on that byte string.

Main definitions:

- Definition Stretch: bytes, or so many zeros.
- Definition Contents: stretches one behind the other.
- Definition Contents.toBytes: the byte string that contents hold.
- Definition Contents.overlay, Contents.resize, Contents.slice: writing, a new length, reading.

Main results:

- Theorems Contents.toBytes_overlay, Contents.toBytes_resize and Contents.slice_eq: the operations
  on contents are those on byte strings.
-/

namespace FileWindow

/-! ## Stretches -/

/-- A part of the contents of a file. -/
inductive Stretch
  /-- So many zeros. -/
  | zeros (count : Nat)
  /-- Bytes that were written. -/
  | bytes (data : Bytes)
  deriving DecidableEq, Repr

namespace Stretch

/-- The bytes of a stretch. -/
def toBytes : Stretch → Bytes
  | zeros count => List.replicate count 0
  | bytes data => data

/-- How many bytes a stretch has. -/
def length : Stretch → Nat
  | zeros count => count
  | bytes data => data.length

/-- The first bytes of a stretch, at most so many. -/
def take : Stretch → Nat → Stretch
  | zeros count, most => zeros (min most count)
  | bytes data, most => bytes (data.take most)

/-- A stretch without its first bytes. -/
def drop : Stretch → Nat → Stretch
  | zeros count, missing => zeros (count - missing)
  | bytes data, missing => bytes (data.drop missing)

/-- The length of a stretch is that of its bytes. -/
@[simp] theorem length_toBytes (stretch : Stretch) : stretch.toBytes.length = stretch.length := by
  cases stretch <;> simp [toBytes, length]

/-- The first bytes of a stretch are the first of its bytes. -/
@[simp] theorem toBytes_take (stretch : Stretch) (most : Nat) :
    (stretch.take most).toBytes = stretch.toBytes.take most := by
  cases stretch <;> simp [toBytes, take]

/-- What is left of a stretch is what is left of its bytes. -/
@[simp] theorem toBytes_drop (stretch : Stretch) (missing : Nat) :
    (stretch.drop missing).toBytes = stretch.toBytes.drop missing := by
  cases stretch <;> simp [toBytes, drop]

end Stretch

/-! ## Contents -/

/-- The contents of a file, stretch by stretch. -/
abbrev Contents := List Stretch

namespace Contents

/-- The byte string that contents hold. -/
def toBytes (contents : Contents) : Bytes :=
  contents.flatMap Stretch.toBytes

/-- Contents that hold a byte string. -/
def ofBytes (data : Bytes) : Contents :=
  if data.isEmpty then [] else [.bytes data]

/-- Contents of so many zeros. -/
def gap (count : Nat) : Contents :=
  if count = 0 then [] else [.zeros count]

/-- How many bytes contents hold. -/
def size : Contents → Nat
  | [] => 0
  | stretch :: rest => stretch.length + size rest

/-- The part of contents before a position. -/
def front : Contents → Nat → Contents
  | [], _ => []
  | stretch :: rest, position =>
    if stretch.length ≤ position then stretch :: front rest (position - stretch.length)
    else if position = 0 then []
    else [stretch.take position]

/-- The part of contents from a position on. -/
def behind : Contents → Nat → Contents
  | [], _ => []
  | stretch :: rest, position =>
    if stretch.length ≤ position then behind rest (position - stretch.length)
    else stretch.drop position :: rest

/-- Contents cut to a length, or extended to it by zeros. -/
def resize (contents : Contents) (length : Nat) : Contents :=
  contents.front length ++ gap (length - contents.size)

/-- The longest stretch of bytes that is made longer by the next write. -/
def joinLimit : Nat := 4096

/-- A stretch with written bytes behind it.  Where the stretch is short they become one, so that
many small writes do not leave as many stretches. -/
def join : Stretch → Bytes → Contents
  | .zeros count, written => gap count ++ [.bytes written]
  | .bytes data, written =>
    if data.length ≤ joinLimit then [.bytes (data ++ written)] else [.bytes data, .bytes written]

/-- Contents after some bytes were written at a position. -/
def put : Contents → Nat → Bytes → Contents
  | [], position, written => gap position ++ [.bytes written]
  | stretch :: rest, position, written =>
    if stretch.length < position then stretch :: put rest (position - stretch.length) written
    else
      join (stretch.take position) written ++ behind (stretch :: rest) (position + written.length)

/-- Contents after bytes were written at a position; no bytes written changes nothing. -/
def overlay (contents : Contents) (position : Nat) (written : Bytes) : Contents :=
  if written.isEmpty then contents else contents.put position written

/-- So many bytes of contents from a position on, fewer at the end. -/
def slice (contents : Contents) (position length : Nat) : Bytes :=
  toBytes ((contents.behind position).front length)

/-! ## What contents hold -/

@[simp] theorem toBytes_nil : toBytes [] = [] :=
  rfl

@[simp] theorem toBytes_cons (stretch : Stretch) (rest : Contents) :
    toBytes (stretch :: rest) = stretch.toBytes ++ toBytes rest := by
  simp [toBytes]

@[simp] theorem toBytes_append (first second : Contents) :
    toBytes (first ++ second) = toBytes first ++ toBytes second := by
  simp [toBytes]

/-- Contents made to hold a byte string hold it. -/
@[simp] theorem toBytes_ofBytes (data : Bytes) : toBytes (ofBytes data) = data := by
  cases data <;> simp [ofBytes, Stretch.toBytes]

@[simp] theorem toBytes_gap (count : Nat) : toBytes (gap count) = List.replicate count 0 := by
  unfold gap
  split <;> simp_all [Stretch.toBytes]

/-- The size of contents is the length of what they hold. -/
@[simp] theorem length_toBytes (contents : Contents) :
    contents.toBytes.length = contents.size := by
  induction contents with
  | nil => rfl
  | cons stretch rest ih => simp [size, ih]

/-- The part before a position holds the bytes before it. -/
@[simp] theorem toBytes_front (contents : Contents) (position : Nat) :
    toBytes (contents.front position) = contents.toBytes.take position := by
  induction contents generalizing position with
  | nil => simp [front]
  | cons stretch rest ih =>
    unfold front
    split
    · rename_i h
      have hall : stretch.toBytes.take position = stretch.toBytes :=
        List.take_of_length_le (by simpa using h)
      rw [toBytes_cons, toBytes_cons, ih, List.take_append, Stretch.length_toBytes, hall]
    · rename_i h
      have hlt : position ≤ stretch.toBytes.length := by simp; omega
      split
      · simp_all
      · simp [List.take_append_of_le_length hlt]

/-- The part from a position on holds the bytes from there on. -/
@[simp] theorem toBytes_behind (contents : Contents) (position : Nat) :
    toBytes (contents.behind position) = contents.toBytes.drop position := by
  induction contents generalizing position with
  | nil => simp [behind]
  | cons stretch rest ih =>
    unfold behind
    split
    · rename_i h
      have hnone : stretch.toBytes.drop position = [] :=
        List.drop_of_length_le (by simpa using h)
      rw [toBytes_cons, ih, List.drop_append, Stretch.length_toBytes, hnone, List.nil_append]
    · rename_i h
      have hle : position ≤ stretch.toBytes.length := by simp; omega
      simp [List.drop_append_of_le_length hle]

/-- Resized contents hold resized bytes. -/
@[simp] theorem toBytes_resize (contents : Contents) (length : Nat) :
    toBytes (contents.resize length) = Bytes.resize contents.toBytes length := by
  simp [resize, Bytes.resize]

@[simp] theorem toBytes_join (stretch : Stretch) (written : Bytes) :
    toBytes (join stretch written) = stretch.toBytes ++ written := by
  cases stretch with
  | zeros count => simp [join, Stretch.toBytes]
  | bytes data =>
    simp only [join]
    split <;> simp [Stretch.toBytes]

/-- Bytes put in contents stand between what they held before the position and behind them. -/
theorem toBytes_put (contents : Contents) (position : Nat) (written : Bytes) :
    toBytes (contents.put position written) =
      Bytes.resize contents.toBytes position ++ written ++
        contents.toBytes.drop (position + written.length) := by
  induction contents generalizing position with
  | nil => simp [put, Bytes.resize, Stretch.toBytes]
  | cons stretch rest ih =>
    unfold put
    split
    · rename_i h
      have hall : stretch.toBytes.take position = stretch.toBytes :=
        List.take_of_length_le (by simp; omega)
      have hnone : stretch.toBytes.drop (position + written.length) = [] :=
        List.drop_of_length_le (by simp; omega)
      have hrest : position + written.length - stretch.length =
          position - stretch.length + written.length := by omega
      simp [ih, Bytes.resize, List.take_append, List.drop_append, hall, hnone, hrest, Nat.sub_sub]
    · rename_i h
      have hle : position ≤ stretch.toBytes.length := by simp; omega
      have hnone : position - (stretch.length + size rest) = 0 := by omega
      simp [Bytes.resize, List.take_append_of_le_length hle, hnone]

/-- Bytes written to contents are laid over what they hold. -/
@[simp] theorem toBytes_overlay (contents : Contents) (position : Nat) (written : Bytes) :
    toBytes (contents.overlay position written) =
      Bytes.overlay contents.toBytes position written := by
  cases written with
  | nil => simp [overlay]
  | cons first rest => simp [overlay, toBytes_put, Bytes.overlay_of_ne_nil]

/-- Reading contents is reading what they hold. -/
theorem slice_eq (contents : Contents) (position length : Nat) :
    contents.slice position length = (contents.toBytes.drop position).take length := by
  simp [slice]

end Contents

end FileWindow

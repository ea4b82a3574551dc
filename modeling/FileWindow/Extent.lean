import FileWindow.FileError
import FileWindow.Limits

/-!
# Extents

An extent is the window that a resource shows of a raw file or stream: it starts some bytes into
the raw data and has a length.  Callers see positions within the extent; devices see raw
positions.  This file holds all the arithmetic between the two.

Main definitions:

- Definition Extent: a window, by raw offset and length.
- Definition Extent.rawTarget: the raw position that a seek within the extent asks for.
- Definition Extent.logical: the position within the extent of a raw position.
- Definition Extent.rest: the length left over behind an offset.

Main results:

- Theorem Extent.logical_eq_ok_iff: the raw positions that have a logical one, and which.
- Theorem Extent.rest_eq_ok_iff: an extent that takes the rest ends where the raw data ends.
-/

namespace FileWindow

/-! ## Origins of a seek -/

/-- The origin of a seek within an extent. -/
inductive Whence
  /-- From the start of the extent. -/
  | start
  /-- From the current position. -/
  | current
  /-- From the end of the extent. -/
  | finish
  deriving DecidableEq, Repr

namespace Whence

/-- The word for an origin. -/
def word : Whence → String
  | start => "Start"
  | current => "Current"
  | finish => "End"

/-- The origin that a number stands for: 0, 1 or 2.  Any other number is a mistake of the
caller. -/
def ofNumber : Int → Except FileError Whence
  | 0 => .ok start
  | 1 => .ok current
  | 2 => .ok finish
  | number => .error (.misuse s!"bad seek: whence {number}")

end Whence

/-! ## Extents -/

/-- The length that a new extent is given. -/
inductive ExtentLength
  /-- Exactly this many bytes. -/
  | bytes (length : Nat)
  /-- Everything from the offset to the present end of the raw data. -/
  | rest
  deriving DecidableEq, Repr

/-- A window by its start and its length, both in raw bytes. -/
structure Extent where
  offset : Nat
  length : Nat
  deriving DecidableEq, Repr

namespace Extent

/-- The extent of a resource that shows nothing. -/
def empty : Extent := ⟨0, 0⟩

/-- The extent that shows the whole of some raw bytes. -/
def whole (length : Nat) : Extent := ⟨0, length⟩

/-- A sum that must be a position. -/
def checkedSum (offset distance : Nat) : Except Refusal Nat :=
  if offset + distance < positionLimit then .ok (offset + distance) else .error .seekOverflow

/-- The raw position that a seek asks for, where the raw cursor stands at a given place.  The
cursor counts only for a seek from the current position: it is raw already, so no offset is
added. -/
def rawTarget (extent : Extent) (distance : Int) (whence : Whence) (cursor : Nat) :
    Except Refusal Nat :=
  if !plausibleDistance distance then .error .seekDistance
  else match whence with
    | .start =>
      if distance < 0 then .error .seekNegative
      else checkedSum extent.offset distance.toNat
    | .finish =>
      if distance > 0 then .error .seekPastEnd
      else if distance.natAbs > extent.length then .error .seekBeforeExtent
      else checkedSum extent.offset (extent.length - distance.natAbs)
    | .current =>
      if 0 ≤ cursor + distance ∧ cursor + distance < positionLimit then
        .ok (cursor + distance).toNat
      else .error .seekBeforeFile

/-- The position within the extent of a raw position. -/
def logical (extent : Extent) (raw : Nat) : Except Refusal Nat :=
  if extent.offset ≤ raw then .ok (raw - extent.offset) else .error .positionBeforeExtent

/-- The length left over behind an offset, where some number of raw bytes exist. -/
def rest (offset size : Nat) : Except Refusal Nat :=
  if offset ≤ size then .ok (size - offset) else .error .extentPastEnd

/-- A raw position has a logical one iff it is not before the extent, and lies that far into
it. -/
theorem logical_eq_ok_iff {extent : Extent} {raw position : Nat} :
    extent.logical raw = .ok position ↔ raw = extent.offset + position := by
  unfold logical
  split <;> simp <;> omega

/-- An extent that takes the rest ends where the raw data ends. -/
theorem rest_eq_ok_iff {offset size length : Nat} :
    rest offset size = .ok length ↔ offset + length = size := by
  unfold rest
  split <;> simp <;> omega

/-- A sum that is a position is what was added. -/
theorem checkedSum_eq_ok_iff {offset distance raw : Nat} :
    checkedSum offset distance = .ok raw ↔ raw = offset + distance ∧ raw < positionLimit := by
  unfold checkedSum
  split <;> simp <;> omega

end Extent

end FileWindow

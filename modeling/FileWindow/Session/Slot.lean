import FileWindow.Input
import FileWindow.Output
import FileWindow.World

/-!
# Resources of a session

A session keeps its resources in slots, each under a name.  A slot holds what the resource knows
of itself, and what it stands on.

Main definitions:

- Definition Session.Slot: an input, an output or a bare device.
- Definition Session.Snapshot: what is shown of a slot after a step.
- Definition Session.Slots: the slots by name.
-/

namespace FileWindow.Session

/-- A resource of a session. -/
inductive Slot
  | input (book : Input) (backing : Backing)
  | output (book : Output) (backing : Backing)
  /-- A device without a window. -/
  | bare (backing : Backing)
  deriving DecidableEq, Repr

/-- What a slot stands on. -/
def Slot.backing : Slot → Backing
  | input _ backing => backing
  | output _ backing => backing
  | bare backing => backing

/-- What is shown of a slot after a step.  For a resource on a stream it tells where the stream
has its cursor and how long its data is. -/
inductive Snapshot
  | input (book : Input) (raw : Option (Nat × Nat))
  | output (book : Output) (raw : Option (Nat × Nat))
  | bare (raw : Nat × Nat)
  deriving DecidableEq, Repr

/-- Cursor and length of the stream that a slot stands on, if it is one. -/
def rawState (world : World) : Backing → Option (Nat × Nat)
  | .stream index => some ((world.stream index).cursor, (world.stream index).data.length)
  | _ => none

/-- What is shown of a slot; nothing is known of a bare device but its stream. -/
def Slot.snapshot (world : World) : Slot → Option Snapshot
  | input book backing => some (.input book (rawState world backing))
  | output book backing => some (.output book (rawState world backing))
  | bare backing => (rawState world backing).map .bare

/-! ## Slots by name -/

/-- The slots of a session by name. -/
abbrev Slots := List (String × Slot)

namespace Slots

/-- The slots without one. -/
def erase (slots : Slots) (name : String) : Slots :=
  slots.filter fun entry => entry.1 != name

/-- The slots with one put in place. -/
def insert (slots : Slots) (name : String) (slot : Slot) : Slots :=
  (name, slot) :: slots.erase name

/-- The slots in the order of their names. -/
def sorted (slots : Slots) : List (String × Slot) :=
  slots.mergeSort fun first second => first.1 ≤ second.1

end Slots

end FileWindow.Session

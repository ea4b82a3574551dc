import FileWindow.Transfer.Basic

/-!
# Reading into a growing buffer

To read all that a source has, a buffer is grown as it fills.  The first read is a small probe,
so that a source with nothing to give costs no buffer; afterwards each read asks for the free
part of the buffer, up to a ceiling that doubles when a read of that size is answered in full.
What a read left of the part it asked for is prepared, and the next read asks for just that.  No
read asks for less than a probe: a prepared part smaller than that is passed over, and a buffer
with less room is grown.  The sizes asked for show in the journal.

Main definitions:

- Definition Growth: how full a buffer is, how large, what is prepared of it, and the ceiling for
  a read.
- Definition Growth.request: the size of the next read.
- Definition Transfer.collect: reads until the source is at its end.

Main results:

- Theorem Growth.min_probe_ceiling_le_request: a read asks for as much as a probe, up to the
  ceiling.
- Theorem Growth.request_pos: a read always asks for something.
-/

namespace FileWindow

/-- A buffer being filled: bytes in it, bytes it has room for, bytes of the room that an earlier
read prepared, and the most that one read asks for. -/
structure Growth where
  filled : Nat
  capacity : Nat
  prepared : Nat
  ceiling : Nat
  deriving DecidableEq, Repr

namespace Growth

/-- The size of the probe, and the least that a later read asks for. -/
def probe : Nat := 32

/-- The least capacity of a buffer that holds anything. -/
def leastCapacity : Nat := 8

/-- The ceiling for the first reads. -/
def firstCeiling : Nat := 8192

/-- The buffer that holds what the probe brought. -/
def afterProbe (count : Nat) : Growth where
  filled := count
  capacity := max leastCapacity count
  prepared := 0
  ceiling := firstCeiling

/-- The buffer with room for a probe at least: one that has less room grows, and at least
doubles. -/
def reserve (growth : Growth) : Growth :=
  if growth.capacity - growth.filled < probe then
    { growth with
      capacity := max leastCapacity (max (2 * growth.capacity) (growth.filled + probe)) }
  else growth

/-- The size of the next read: what is prepared, or else the room that is left, up to the
ceiling. -/
def request (growth : Growth) : Nat :=
  if probe ≤ growth.prepared then growth.prepared
  else min (growth.capacity - growth.filled) growth.ceiling

/-- The buffer after a read of a size was answered by so many bytes. -/
def advance (growth : Growth) (asked count : Nat) : Growth :=
  { growth with
    filled := growth.filled + count
    prepared := asked - count
    ceiling :=
      if growth.ceiling ≤ asked ∧ count = asked then 2 * growth.ceiling else growth.ceiling }

/-- The ceiling stays above zero. -/
theorem ceiling_advance_pos {growth : Growth} (hceiling : 0 < growth.ceiling)
    (asked count : Nat) : 0 < (growth.reserve.advance asked count).ceiling := by
  unfold advance reserve
  split <;> simp only <;> split <;> omega

/-- After growing where that is called for, the buffer has room for a probe. -/
theorem probe_le_room_reserve (growth : Growth) :
    probe ≤ growth.reserve.capacity - growth.reserve.filled := by
  unfold reserve
  split
  · simp only
    omega
  · omega

/-- A read asks for as much as a probe at least, unless the ceiling is lower. -/
theorem min_probe_ceiling_le_request (growth : Growth) :
    min probe growth.ceiling ≤ growth.reserve.request := by
  have hroom := probe_le_room_reserve growth
  have hceiling : growth.reserve.ceiling = growth.ceiling := by
    unfold reserve
    split <;> rfl
  unfold request
  split
  · omega
  · omega

/-- With a ceiling above zero a read asks for something. -/
theorem request_pos {growth : Growth} (hceiling : 0 < growth.ceiling) :
    0 < growth.reserve.request := by
  have hprobe : 0 < probe := by decide
  have hrequest := min_probe_ceiling_le_request growth
  omega

end Growth

namespace Transfer

variable {ρ σ : Type}

/-- Makes a read again as long as it is interrupted. -/
def persist (source : Nat → Action Fault ρ σ Bytes) (length : Nat) : Nat → Action Fault ρ σ Bytes
  | 0 => Action.stalled
  | rounds + 1 => do
    match ← Action.observe (source length) with
    | .ok bytes => pure bytes
    | .error fault =>
      if fault.isInterruption then persist source length rounds else Action.fail fault

/-- Reads into a growing buffer until the source is at its end. -/
def collectInto (source : Nat → Action Fault ρ σ Bytes) (patience : Nat) :
    Nat → Growth → Action Fault ρ σ Bytes
  | 0, _ => Action.stalled
  | rounds + 1, growth => do
    let growth := growth.reserve
    match ← persist source growth.request patience with
    | [] => pure []
    | bytes =>
      let advanced := growth.advance growth.request bytes.length
      return bytes ++ (← collectInto source patience rounds advanced)

/-- Reads all that a source has, by a probe and then into a growing buffer. -/
def collect (source : Nat → Action Fault ρ σ Bytes) (patience rounds : Nat) :
    Action Fault ρ σ Bytes := do
  match ← persist source Growth.probe patience with
  | [] => pure []
  | bytes => return bytes ++ (← collectInto source patience rounds (.afterProbe bytes.length))

end Transfer

end FileWindow

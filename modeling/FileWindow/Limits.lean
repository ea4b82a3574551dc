/-!
# Limits on sizes and positions

Lengths given to an operation often come out of headers of untrusted data.  A length above a
fixed bound is taken for corrupt and refused.  Positions are counted in words of 64 bits.

Main definitions:

- Definition maxTransfer: the largest length or distance that one operation accepts.
- Definition transferSize: a requested length, if it is accepted.
- Definition plausibleDistance: whether a signed distance is accepted.
- Definition positionLimit: the first position that no word holds.

Main results:

- Theorem lengthRefused_iff: which lengths are refused for a buffer.
-/

namespace FileWindow

/-- Upper bound on a single read, write or seek distance: 768 MiB. -/
def maxTransfer : Nat := 768 * 1024 * 1024

/-- Positions and counters stay below this bound. -/
def positionLimit : Nat := 0x10000000000000000

/-- A requested length can be handed to a device iff it is within the bound. -/
def validLength (length : Nat) : Bool := length ≤ maxTransfer

/-- The length to transfer for a requested one, none if it is out of range. -/
def transferSize (length : Nat) : Option Nat :=
  if validLength length then some length else none

/-- A signed distance is plausible iff its magnitude is within the bound. -/
def plausibleDistance (distance : Int) : Bool := validLength distance.natAbs

/-- A length for a buffer is refused where it is above the bound on transfers, or more than the
buffer holds. -/
theorem lengthRefused_iff {length room : Nat} :
    (!validLength length || decide (length > room)) = true ↔
      ¬(length ≤ maxTransfer ∧ length ≤ room) := by
  simp only [validLength, Bool.or_eq_true, Bool.not_eq_true', decide_eq_false_iff_not,
    decide_eq_true_eq]
  omega

end FileWindow

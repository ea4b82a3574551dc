import FileWindow.Action

/-!
# Loops over transfers

A source answers up to so many bytes at a time and a sink accepts some of the bytes offered to
it.  This file builds from them the transfers that go on until something is complete.  Each loop
is given a number of rounds; a loop that runs out of rounds stalls, which is an outcome of its
own.

Main definitions:

- Definition Transfer.fill: reads until so many bytes are there.
- Definition Transfer.drain: writes until all bytes are accepted.
- Definition Transfer.pump: reads and writes until the source is at its end.
-/

namespace FileWindow.Transfer

variable {ε ρ σ : Type}

/-- Reads until so many bytes are there.  An interrupted read is made again; a source at its end
is a failure. -/
def fill (source : Nat → Action Fault ρ σ Bytes) : Nat → Nat → Action Fault ρ σ Bytes
  | _, 0 => pure []
  | 0, _ + 1 => Action.stalled
  | rounds + 1, missing + 1 => do
    match ← Action.observe (source (missing + 1)) with
    | .ok [] => Action.fail (.plain .unexpectedEof)
    | .ok bytes => return bytes ++ (← fill source rounds (missing + 1 - bytes.length))
    | .error fault =>
      if fault.isInterruption then fill source rounds (missing + 1) else Action.fail fault

/-- Writes until all bytes are accepted.  An interrupted write is made again; a sink that
accepts nothing is a failure. -/
def drain (sink : Bytes → Action Fault ρ σ Nat) : Nat → Bytes → Action Fault ρ σ Unit
  | _, [] => pure ()
  | 0, _ :: _ => Action.stalled
  | rounds + 1, byte :: rest => do
    match ← Action.observe (sink (byte :: rest)) with
    | .ok 0 => Action.fail (.plain .writeZero)
    | .ok accepted => drain sink rounds ((byte :: rest).drop accepted)
    | .error fault =>
      if fault.isInterruption then drain sink rounds (byte :: rest) else Action.fail fault

/-- Reads some bytes at a time and writes them, until the source is at its end; answers how many
there were, those moved before included.  A failed read is made again where the caller says
so. -/
def pump (again : ε → Bool) (source : Nat → Action ε ρ σ Bytes) (sink : Bytes → Action ε ρ σ Unit)
    (chunk : Nat) : Nat → Nat → Action ε ρ σ Nat
  | 0, _ => Action.stalled
  | rounds + 1, moved => do
    match ← Action.observe (source chunk) with
    | .ok [] => return moved
    | .ok bytes =>
      sink bytes
      pump again source sink chunk rounds (moved + bytes.length)
    | .error error =>
      if again error then pump again source sink chunk rounds moved else Action.fail error

end FileWindow.Transfer

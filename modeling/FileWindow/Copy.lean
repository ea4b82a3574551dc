import FileWindow.Adapter

/-!
# Copying from an input to an output

An input is copied to an output from where it stands to the end of its extent, either by its own
operations in chunks of a given size or through adapters in chunks of a fixed size.

Main definitions:

- Definition Copy.inChunks: by the operations of the resources.
- Definition Copy.adapted: through adapters.
-/

namespace FileWindow.Copy

variable {σ : Type}

/-- What a copy between an input and an output does on a world. -/
abbrev CopyAction (ε σ α : Type) := Action ε (Input × Output) σ α

/-- The size of a chunk when adapters are copied. -/
def adaptedChunk : Nat := 8192

/-- Reads a chunk and writes it until there is nothing to read, and answers how many bytes were
copied.  Any failure ends the copy. -/
def inChunks (source target : Device σ) (chunk : Nat) : CopyAction FileError σ Nat := do
  let rounds ← Action.onFirst (Adapter.rounds source)
  Transfer.pump (fun _ => false)
    (fun length => Action.onFirst (Input.read source length length))
    (fun bytes => Action.onSecond (Output.write target bytes bytes.length))
    chunk rounds 0

/-- Copies through adapters.  An interrupted read is made again; any other failure ends the
copy. -/
def adapted (source target : Device σ) : CopyAction Fault σ Nat := do
  let rounds ← Action.onFirst (Adapter.rounds source)
  Transfer.pump Fault.isInterruption
    (fun length => Action.onFirst (Adapter.read source length))
    (fun bytes => Action.onSecond (Adapter.writeAll target bytes))
    adaptedChunk rounds 0

end FileWindow.Copy

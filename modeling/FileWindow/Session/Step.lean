import FileWindow.Session.Request
import FileWindow.Session.Slot

/-!
# Steps of a session

The steps that open, use and give up resources by name, the tasks on files between them, and what
is reported of a step.

Main definitions:

- Definition Session.Step: the steps.
- Definition Session.Step.resource, Session.Step.second: the resources that a step is about.
- Definition Session.Report: what a step answered, and what is shown of its resources.
- Definition Session.Halt: why a session goes no further.
-/

namespace FileWindow.Session

/-- What a closed resource is made for. -/
inductive ResourceKind
  | file
  | stream
  deriving DecidableEq, Repr

/-- The steps of a session. -/
inductive Step
  | openInput (name path : String)
  | openOutput (name path : String) (mode : OutputMode) (permissions : Option Nat)
  | inputStream (name label : String) (stream : Stream)
  | outputStream (name label : String) (stream : Stream)
  | newInput (name : String) (kind : ResourceKind)
  | newOutput (name : String) (kind : ResourceKind)
  | standardOutput (name : String) (force : Bool)
  | bareStream (name : String) (stream : Stream)
  | bareFile (name path : String) (write : Bool)
  | bareStandardOutput (name : String)
  /-- Asks something of a resource. -/
  | use (name : String) (request : Request)
  /-- Which descriptor a resource stands on. -/
  | descriptor (name : String)
  /-- Reads from a second descriptor of an input. -/
  | duplicate (name : String) (length : Nat)
  /-- Shows what the stream of an output holds. -/
  | streamData (name : String)
  /-- Gives an output up for its stream. -/
  | intoStream (name : String)
  /-- Gives a bare device up for its stream. -/
  | intoInner (name : String)
  /-- Releases a bare device. -/
  | releaseBare (name : String)
  | copy (source target : String) (chunk : Option Nat)
  | drop (name : String) (unwinding : Bool)
  /-- Closes the descriptor behind a resource. -/
  | breakDescriptor (name : String)
  | resizeStream (name : String) (length : Nat)
  | resizeFile (path : String) (length : Nat)
  | dump (path : String) (data : Bytes)
  | changeMode (path : String) (mode : Nat)
  | rename (source target : String)
  | remove (path : String)
  | removeQuietly (path : String)
  | contents (path : String)

namespace Step

/-- The name of the resource that a step is about, if it is about one. -/
def resource : Step → Option String
  | .openInput name .. | .openOutput name .. | .inputStream name .. | .outputStream name ..
  | .newInput name _ | .newOutput name _ | .standardOutput name _ | .bareStream name _
  | .bareFile name .. | .bareStandardOutput name | .use name _ | .descriptor name
  | .duplicate name _ | .streamData name | .intoStream name | .intoInner name
  | .releaseBare name | .copy name .. | .drop name _ | .breakDescriptor name
  | .resizeStream name _ => some name
  | .resizeFile .. | .dump .. | .changeMode .. | .rename .. | .remove _ | .removeQuietly _
  | .contents _ => none

/-- The name of the second resource that a step is about. -/
def second : Step → Option String
  | .copy _ target _ => some target
  | _ => none

end Step

/-! ## What becomes of a step -/

/-- What a step answered, and what is shown of the resources it was about. -/
structure Report where
  answer : Except Problem Value
  shown : Option Snapshot
  target : Option Snapshot

/-- Why a session goes no further. -/
inductive Halt
  /-- A step asks what its resource cannot be asked. -/
  | rejected (reason : String)
  /-- A counter left the range of positions. -/
  | overflow
  /-- A loop used up its rounds. -/
  | stalled
  deriving DecidableEq, Repr

end FileWindow.Session

import FileWindow.Copy
import FileWindow.Session.Basic

/-!
# Resources that a session uses

What the steps do that ask something of resources by name: requests, second descriptors, streams
taken back, copies, and what happens behind the back of a resource.

Main definitions:

- Definition Session.use: a request to a resource.
- Definition Session.duplicate: reading from a second descriptor.
- Definition Session.intoStream: an output given up for its stream.
- Definition Session.copy: an input copied to an output.
-/

namespace FileWindow.Session

/-- The answer of an action on an input, and the session with its new book. -/
def actInput (session : Session) (name : String) (book : Input) (backing : Backing)
    (action : Action Problem Input World Value) : Stepped := do
  let (answer, book, session) ← session.act book action
  return (answer, session.setSlot name (.input book backing))

/-- The answer of an action on an output, and the session with its new book. -/
def actOutput (session : Session) (name : String) (book : Output) (backing : Backing)
    (action : Action Problem Output World Value) : Stepped := do
  let (answer, book, session) ← session.act book action
  return (answer, session.setSlot name (.output book backing))

/-- The answer of a call on the world. -/
def actCall (session : Session) (call : Call World Value) : Stepped :=
  match call session.world with
  | .ok value world => return (.ok value, session.setWorld world)
  | .error fault world => return (.error (.fault fault), session.setWorld world)

/-- Asks something of a resource. -/
def use (session : Session) (name : String) (request : Request) : Stepped := do
  match ← session.slot name with
  | .input book backing =>
    match request.toInput with
    | none => reject s!"no such request to an input: {name}"
    | some (.error error) => return (.error (.error error), session)
    | some (.ok operation) =>
      session.actInput name book backing (Input.perform (World.device backing) operation)
  | .output book backing =>
    match request.toOutput with
    | none => reject s!"no such request to an output: {name}"
    | some (.error error) => return (.error (.error error), session)
    | some (.ok operation) =>
      session.actOutput name book backing (Output.perform (World.device backing) operation)
  | .bare backing =>
    match request.toDevice (World.device backing) with
    | none => reject s!"no such request to a bare device: {name}"
    | some call => session.actCall call

/-- The word for a descriptor, none where there is none. -/
def descriptorWord (isOpen : Bool) : Backing → Value
  | .console => if isOpen then .word "stdout" else .nothing
  | .file _ => if isOpen then .word "file" else .nothing
  | _ => .nothing

/-- Which descriptor a resource stands on. -/
def descriptor (session : Session) (name : String) : Stepped := do
  match ← session.slot name with
  | .input book backing => return (.ok (descriptorWord book.isOpen backing), session)
  | .output book backing => return (.ok (descriptorWord book.isOpen backing), session)
  | .bare backing => return (.ok (descriptorWord true backing), session)

/-- Reads up to so many bytes from a second descriptor of a file; the two share a cursor. -/
def duplicateAndRead (handle length : Nat) : Action Problem Input FileSystem Value := do
  let reader ← (Input.reader .duplicate).mapError .error
  (Action.call reader.window.name .duplicate (FileSystem.duplicate handle)).mapError .error
  match ← Action.attempt (FileSystem.readFile handle length) with
  | .ok bytes => return .bytes bytes
  | .error fault => Action.fail (.fault fault)

/-- Reads from a second descriptor of an input. -/
def duplicate (session : Session) (name : String) (length : Nat) : Stepped := do
  match ← session.slot name with
  | .input book (.file handle) =>
    session.actInput name book (.file handle) (onFiles (duplicateAndRead handle length))
  | .input book .nothing =>
    session.actInput name book .nothing (.native (fun _ => .nothing) (Input.reader .duplicate))
  | _ => reject s!"no input on a file: {name}"

/-- What the stream of an output holds; nothing once it is closed. -/
def streamData (session : Session) (name : String) : Stepped := do
  match ← session.slot name with
  | .output book (.stream index) =>
    if book.isOpen then return (.ok (.bytes (session.world.stream index).data), session)
    else return (.ok .nothing, session)
  | .output _ .nothing => return (.ok .nothing, session)
  | _ => reject s!"no output on a stream: {name}"

/-- Gives an output up for its stream.  What is left of the output is dropped: where that fails, it
still has its stream. -/
def intoStream (session : Session) (name : String) : Stepped := do
  match ← session.slot name with
  | .output book backing =>
    match backing with
    | .file _ | .console => reject s!"no output on a stream: {name}"
    | backing =>
      let device := World.device backing
      let (result, book, session) ← session.act book (Output.detach device)
      let session ← (session.eraseSlot name).dropSlot false (.output book backing)
      match result, backing with
      | .ok (), .stream index =>
        let stream := session.world.stream index
        return (.ok (.contents stream.cursor stream.data), session)
      | .ok (), _ => return (.ok .nothing, session)
      | .error error, _ => return (.error (.error error), session)
  | _ => reject s!"no output on a stream: {name}"

/-- Gives a bare device up for its stream. -/
def intoInner (session : Session) (name : String) : Stepped := do
  match ← session.slot name with
  | .bare (.stream index) =>
    let stream := session.world.stream index
    return (.ok (.contents stream.cursor stream.data), session.eraseSlot name)
  | _ => reject s!"no bare stream: {name}"

/-- Releases a bare device. -/
def releaseBare (session : Session) (name : String) : Stepped := do
  match ← session.slot name with
  | .bare backing =>
    (session.eraseSlot name).actCall (.done <$> (World.device backing).close)
  | _ => reject s!"no bare device: {name}"

/-- Copies an input to an output. -/
def copy (session : Session) (source target : String) (chunk : Option Nat) : Stepped := do
  match ← session.slot source, ← session.slot target with
  | .input input inputBacking, .output output outputBacking =>
    let reading := World.device inputBacking
    let writing := World.device outputBacking
    let action : Action Problem (Input × Output) World Value :=
      match chunk with
      | some chunk => .native .number (Copy.inChunks reading writing chunk)
      | none => .foreign .number (Copy.adapted reading writing)
    let (answer, books, session) ← session.act (input, output) action
    return (answer, (session.setSlot source (.input books.1 inputBacking)).setSlot target
      (.output books.2 outputBacking))
  | _, _ => reject s!"no input and output: {source}, {target}"

/-- Closes the descriptor behind a resource; a closed one has none. -/
def breakDescriptor (session : Session) (name : String) : Stepped := do
  match (← session.slot name).backing with
  | .file handle => return (.ok .nothing, session.closeDescriptor (.file handle))
  | .nothing => return (.ok .nothing, session)
  | _ => reject s!"no resource on a file: {name}"

/-- Gives the data of a stream another length. -/
def resizeStream (session : Session) (name : String) (length : Nat) : Stepped := do
  match (← session.slot name).backing with
  | .stream index =>
    let stream := (session.world.stream index).resize length
    return (.ok .nothing, session.setWorld (session.world.setStream index stream))
  | .nothing => return (.ok .nothing, session)
  | _ => reject s!"no resource on a stream: {name}"

end FileWindow.Session

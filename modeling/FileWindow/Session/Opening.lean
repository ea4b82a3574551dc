import FileWindow.FileResource
import FileWindow.Session.Basic

/-!
# Resources that a session opens

A step that opens a resource puts it in place under its name.  Where opening fails there is no
new resource, and what had the name before stays.

Main definitions:

- Definition Session.placeOpened: puts a resource in place if it was opened.
- Definition Session.openInput, Session.openOutput: resources on files.
- Definition Session.attachInput, Session.attachOutput: resources on streams.
- Definition Session.openStandard: standard output as a resource.
- Definition Session.openBareFile: a file without a window.
-/

namespace FileWindow.Session

/-- Puts a resource in place if it was opened. -/
def placeOpened (name : String) (result : Except Problem Slot) (session : Session) : Stepped :=
  match result with
  | .ok slot => do return (.ok (.flag true), ← session.place name slot)
  | .error problem => return (.error problem, session)

/-! ## Files -/

/-- Opens a path as an input. -/
def openInput (session : Session) (name path : String) : Stepped := do
  let (result, _, session) ← session.act () (onFiles (Input.openPath path))
  placeOpened name
    ((result.map fun (book, handle) => .input book (.file handle)).mapError .error) session

/-- Opens a path as an output. -/
def openOutput (session : Session) (name path : String) (mode : OutputMode)
    (permissions : Option Nat) : Stepped := do
  let (result, _, session) ← session.act () (onFiles (Output.openPath path mode permissions))
  placeOpened name
    ((result.map fun (book, handle) => .output book (.file handle)).mapError .error) session

/-- Opens a path as a bare device, for reading and maybe for writing. -/
def openBareFile (session : Session) (name path : String) (write : Bool) : Stepped :=
  match callFiles (FileSystem.openPath { OpenOptions.reading with write } path) session.world with
  | .ok handle world => placeOpened name (.ok (.bare (.file handle))) (session.setWorld world)
  | .error fault world => return (.error (.fault fault), session.setWorld world)

/-! ## Streams -/

/-- The session with a stream added, and the number of the stream. -/
def addStream (session : Session) (stream : Stream) : Nat × Session :=
  (session.world.streams.length, session.setWorld (session.world.addStream stream))

/-- What a closed resource for files or streams stands on. -/
def closedBacking (session : Session) : ResourceKind → Backing × Session
  | .file => (.nothing, session)
  | .stream =>
    let (index, session) := session.addStream (.plain [] 0)
    (.stream index, session)

/-- Opens an input on a stream. -/
def attachInput (session : Session) (name label : String) (stream : Stream) : Stepped := do
  let (index, session) := session.addStream stream
  let backing := Backing.stream index
  let (result, _, session) ← session.act () (Input.attach (World.device backing) label)
  placeOpened name ((result.map fun book => .input book backing).mapError .error) session

/-- Opens an output on a stream. -/
def attachOutput (session : Session) (name label : String) (stream : Stream) : Stepped := do
  let (index, session) := session.addStream stream
  let backing := Backing.stream index
  let (result, _, session) ← session.act () (Output.attach (World.device backing) label)
  placeOpened name ((result.map fun book => .output book backing).mapError .error) session

/-- Puts a stream in place as a bare device. -/
def attachBare (session : Session) (name : String) (stream : Stream) : Stepped := do
  let (index, session) := session.addStream stream
  placeOpened name (.ok (.bare (.stream index))) session

/-! ## Closed resources -/

/-- Puts a closed input in place. -/
def placeClosedInput (session : Session) (name : String) (kind : ResourceKind) : Stepped := do
  let (backing, session) := session.closedBacking kind
  placeOpened name (.ok (.input .closed backing)) session

/-! ## Standard output -/

/-- Opens standard output as a resource; a terminal may be left alone. -/
def openStandard (session : Session) (name : String) (force : Bool) : Stepped := do
  let (result, _, session) ←
    session.act () ((Output.openStandard force).within World.console World.setConsole)
  match result with
  | .error error => return (.error (.error error), session)
  | .ok none => return (.ok (.flag false), session)
  | .ok (some book) => placeOpened name (.ok (.output book .console)) session

end FileWindow.Session

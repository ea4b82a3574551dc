import FileWindow.Session.Step

/-!
# Sessions

A session holds a world of files, streams and standard output, a journal, and resources by name.
This file keeps the three together: actions on a resource run in the world of the session, and a
resource that loses its name is given up.

Main definitions:

- Definition Session: the world, the journal and the slots.
- Definition Session.act: an action of a resource within a session.
- Definition Session.place, Session.dropSlot: resources put in place and given up.
-/

namespace FileWindow

/-- A session under way: its world, its journal, and its resources by name. -/
structure Session where
  world : World
  journal : Journal
  slots : Session.Slots
  deriving Repr

namespace Session

/-- What a step gives: its answer and the session after it. -/
abbrev Stepped := Except Halt (Except Problem Value × Session)

variable {ε ρ α : Type}

/-! ## Actions within a session -/

/-- The session after an action on a book, with the book and what the action answered. -/
def act (session : Session) (book : ρ) (action : Action ε ρ World α) :
    Except Halt (Except ε α × ρ × Session) :=
  match action ⟨book, session.world, session.journal⟩ with
  | .ok value frame =>
    .ok (.ok value, frame.book, { session with world := frame.world, journal := frame.journal })
  | .error (.failed error) frame =>
    .ok (.error error, frame.book,
      { session with world := frame.world, journal := frame.journal })
  | .error .overflow _ => .error .overflow
  | .error .stalled _ => .error .stalled

/-- A refusal of a step by the session. -/
def reject (reason : String) : Except Halt α :=
  .error (.rejected reason)

/-- The slot of a name, which has to be there. -/
def slot (session : Session) (name : String) : Except Halt Slot :=
  match session.slots.lookup name with
  | some slot => .ok slot
  | none => reject s!"no resource {name}"

/-- The session with a slot put in place. -/
def setSlot (session : Session) (name : String) (slot : Slot) : Session :=
  { session with slots := session.slots.insert name slot }

/-- The session without a slot. -/
def eraseSlot (session : Session) (name : String) : Session :=
  { session with slots := session.slots.erase name }

/-- The session with another world. -/
def setWorld (session : Session) (world : World) : Session :=
  { session with world }

/-- An action on files as one on the world. -/
def onFiles (action : Action ε ρ FileSystem α) : Action ε ρ World α :=
  action.within World.files World.setFiles

/-- A call on files as one on the world. -/
def callFiles (call : Call FileSystem α) : Call World α :=
  call.within World.files World.setFiles

/-! ## Giving resources up -/

/-- The session with the descriptor of a file closed; nothing else has one of its own. -/
def closeDescriptor (session : Session) : Backing → Session
  | .file handle =>
    session.setWorld (session.world.setFiles (session.world.files.closeDescriptor handle))
  | _ => session

/-- What giving a slot up does: open resources are closed, and failures go to the journal. -/
def dropSlot (session : Session) (unwinding : Bool) : Slot → Except Halt Session
  | .input book backing => do
    let (_, _, session) ←
      session.act book (Input.drop (ε := Empty) (World.device backing) unwinding)
    return session
  | .output book backing => do
    let (_, _, session) ←
      session.act book (Output.drop (ε := Empty) (World.device backing) unwinding)
    return session
  | .bare backing => return session.closeDescriptor backing

/-- Puts a slot in place; what had the name before is given up. -/
def place (session : Session) (name : String) (slot : Slot) : Except Halt Session := do
  let replaced := session.setSlot name slot
  match session.slots.lookup name with
  | none => return replaced
  | some old => replaced.dropSlot false old

end Session

end FileWindow

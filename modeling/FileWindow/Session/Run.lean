import FileWindow.FileSystem.Listing
import FileWindow.Session.Opening
import FileWindow.Session.Using

/-!
# Whole sessions

A session is a row of steps that open, use and give up resources in a world of files, streams
and standard output.  Every step is answered; after the last one the resources still there are
given up in the order of their names.

Main definitions:

- Definition Session.perform: what a step answers.
- Definition Session.step: a step with its report.
- Definition Session.run: a whole session.
-/

namespace FileWindow.Session

variable {α : Type}

/-! ## Steps -/

/-- What a task on files answers. -/
def actFiles (session : Session) (value : α → Value)
    (action : Action FileError Output FileSystem α) : Stepped := do
  let (answer, _, session) ← session.act .closed (.native value (onFiles action))
  return (answer, session)

/-- What a step answers, and the session after it. -/
def perform (session : Session) : Step → Stepped
  | .openInput name path => session.openInput name path
  | .openOutput name path mode permissions => session.openOutput name path mode permissions
  | .inputStream name label stream => session.attachInput name label stream
  | .outputStream name label stream => session.attachOutput name label stream
  | .newInput name kind => session.placeClosedInput name kind
  | .newOutput name _ => placeOpened name (.ok (.output .closed .nothing)) session
  | .standardOutput name force => session.openStandard name force
  | .bareStream name stream => session.attachBare name stream
  | .bareFile name path write => session.openBareFile name path write
  | .bareStandardOutput name => placeOpened name (.ok (.bare .console)) session
  | .use name request => session.use name request
  | .descriptor name => session.descriptor name
  | .duplicate name length => session.duplicate name length
  | .streamData name => session.streamData name
  | .intoStream name => session.intoStream name
  | .intoInner name => session.intoInner name
  | .releaseBare name => session.releaseBare name
  | .copy source target chunk => session.copy source target chunk
  | .drop name unwinding => do
    let slot ← session.slot name
    return (.ok .nothing, ← (session.eraseSlot name).dropSlot unwinding slot)
  | .breakDescriptor name => session.breakDescriptor name
  | .resizeStream name length => session.resizeStream name length
  | .resizeFile path length =>
    session.actCall (.done <$> callFiles (.update fun files => files.resize path length))
  | .dump path data => session.actFiles .done (FileTask.dump path data)
  | .changeMode path mode => session.actFiles .done (FileTask.changeMode path mode)
  | .rename source target => session.actFiles .done (FileTask.rename source target)
  | .remove path => session.actFiles .done (FileTask.remove path)
  | .removeQuietly path => session.actFiles .flag (FileTask.removeQuietly path)
  | .contents path =>
    match session.world.files.contents path with
    | .ok data => return (.ok (.bytes data), session)
    | .error fault => return (.error (.fault fault), session)

/-- What is shown of a resource by name. -/
def shown (session : Session) (name : Option String) : Option Snapshot := do
  (← session.slots.lookup (← name)).snapshot session.world

/-- A step: its report and the session after it. -/
def step (session : Session) (step : Step) : Except Halt (Report × Session) := do
  let (answer, session) ← session.perform step
  return (⟨answer, session.shown step.resource, session.shown step.second⟩, session)

/-! ## Whole sessions -/

/-- The steps one after the other. -/
def runSteps (session : Session) : List Step → Except Halt (List Report × Session)
  | [] => return ([], session)
  | first :: rest => do
    let (report, session) ← session.step first
    let (reports, session) ← session.runSteps rest
    return (report :: reports, session)

/-- Gives up all resources that are still there, in the order of their names. -/
def dropAll (session : Session) : Except Halt Session :=
  session.slots.sorted.foldlM (fun session entry => session.dropSlot false entry.2)
    { session with slots := [] }

/-- Passes on what standard output still keeps back; a failure is of no consequence. -/
def flushConsole (session : Session) : Session :=
  match Console.flush session.world.console with
  | .ok _ console => session.setWorld (session.world.setConsole console)
  | .error _ console => session.setWorld (session.world.setConsole console)

/-- A whole session: the steps, and the end of what is left. -/
def run (world : World) (steps : List Step) : Except Halt (List Report × Session) := do
  let (reports, session) ← runSteps ⟨world, [], []⟩ steps
  return (reports, (← session.dropAll).flushConsole)

end FileWindow.Session

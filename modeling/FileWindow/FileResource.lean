import FileWindow.Adapter
import FileWindow.Console
import FileWindow.FileSystem.Entry
import FileWindow.FileSystem.OpenFile

/-!
# Resources on files

Files are opened by path as inputs and outputs, and a few tasks on files are done in one go, each
with its failure told as an error of the file it was about.

Main definitions:

- Definition Input.openPath, Output.openPath: a file as a resource.
- Definition Output.openStandard: standard output as a resource.
- Definition FileTask.dump: writes a buffer out as a file.
- Definition FileTask.changeMode, FileTask.rename: permission bits and names.
- Definition FileTask.removeQuietly, FileTask.remove: removes a file, if need be made writable
  first.
-/

namespace FileWindow

variable {ε ρ : Type}

/-! ## Opening -/

/-- Opens a path in some way on behalf of its own name, and answers the number of the open
file. -/
def openNamed (options : OpenOptions) (path : String) (reportMissing : Bool) :
    Action FileError ρ FileSystem Nat := do
  match ← Action.attempt (FileSystem.openPath options path) with
  | .ok handle => return handle
  | .error fault => Action.fail (.ofOpening path reportMissing fault)

/-- What an open file is attached to, with its number.  Where that fails nothing stays open. -/
def attachOpened {α : Type} (handle : Nat) (attach : Action FileError ρ FileSystem α) :
    Action FileError ρ FileSystem (α × Nat) := do
  match ← Action.observe attach with
  | .ok book => return (book, handle)
  | .error error =>
    let _ ← Action.attempt (FileSystem.closeFile handle)
    Action.fail error

/-- Opens a path for reading.  Answers the input and the number of its open file. -/
def Input.openPath (path : String) : Action FileError ρ FileSystem (Input × Nat) := do
  let handle ← openNamed .reading path true
  attachOpened handle (Input.attach (FileSystem.device handle) path)

/-- Opens a path for output.  Answers the output and the number of its open file. -/
def Output.openPath (path : String) (mode : OutputMode) (permissions : Option Nat) :
    Action FileError ρ FileSystem (Output × Nat) := do
  let handle ← openNamed (.output mode permissions) path false
  attachOpened handle (Output.attach (FileSystem.device handle) path)

/-- The name by which standard output goes. -/
def standardOutputName : String := "<stdout>"

/-- Standard output as a resource, none if it is a terminal and not forced, so that raw bytes do
not end up on a screen. -/
def Output.openStandard (force : Bool) : Action FileError ρ Console (Option Output) :=
  fun frame =>
    if !force && frame.world.isTerminal then
      .ok none { frame with journal := .terminalRefused standardOutputName :: frame.journal }
    else (some <$> Output.attach Console.device standardOutputName) frame

/-! ## Tasks on files -/

namespace FileTask

/-- Permission bits of a file that is dumped: it is its owner's alone. -/
def dumpPermissions : Nat := 0o600

/-- Permission bits that make a file writable. -/
def writablePermissions : Nat := 0o666

/-- Writes a buffer out as a fresh file, in place of whatever the file held.  The book is that
of the output while it is open. -/
def dump (path : String) (data : Bytes) : Action FileError Output FileSystem Unit := do
  Action.report (.dumping path data.length)
  let (output, handle) ← Output.openPath path .truncate (some dumpPermissions)
  Action.setBook output
  let device := FileSystem.device handle
  let result ← Action.observe (Output.write device data data.length)
  Output.closeAfter device result

/-- Sets the permission bits of what a path leads to. -/
def changeMode (path : String) (mode : Nat) : Action FileError ρ FileSystem Unit :=
  Action.call path .changeMode (.update fun files => files.changeMode path mode)

/-- Gives a file another name. -/
def rename (source target : String) : Action FileError ρ FileSystem Unit :=
  Action.call source .rename (.update fun files => files.rename source target)

/-- Tries a change of the file system, and answers whether it was made. -/
def succeeds (change : FileSystem → Except Fault FileSystem) :
    Action ε ρ FileSystem Bool := do
  match ← Action.attempt (.update change) with
  | .ok () => return true
  | .error _ => return false

/-- Removes a file, once more after making it writable.  Never fails, and answers whether the
file is gone. -/
def removeQuietly (path : String) : Action ε ρ FileSystem Bool := do
  if ← succeeds fun files => files.remove path then return true
  else if ← succeeds fun files => files.changeMode path writablePermissions then
    if ← succeeds fun files => files.remove path then return true
    else
      Action.report (.notRemoved path)
      return false
  else
    Action.report (.notRemoved path)
    return false

/-- What keeps a path from being removed: that it is not there, or that it may not be. -/
def obstacle (path : String) (files : FileSystem) : Fault :=
  match files.lookup .itself path with
  | .ok _ => .system Errno.accessDenied
  | .error fault => fault

/-- Removes a file, once more after making it writable. -/
def remove (path : String) : Action FileError ρ FileSystem Unit := do
  if ← removeQuietly path then return ()
  else Action.call path .unlink fun files => .error (obstacle path files) files

end FileTask

end FileWindow

import FileWindow.Device
import FileWindow.FileSystem.Lookup

/-!
# Opening files

Opening a path gives an open file, numbered in the order of opening.  Depending on the options a
missing file is made, a present one is emptied or refused, and a directory can only be read.  What
is there has to allow what is asked for; a file that is made allows it to the one who makes it.

Main definitions:

- Definition OutputMode: the ways to open a file for output.
- Definition OpenOptions: what an open asks for.
- Definition FileSystem.openPath: opens a path.
-/

namespace FileWindow

/-- How a file is opened for output. -/
inductive OutputMode
  /-- Made if missing, emptied if present. -/
  | truncate
  /-- Made, and refused if present. -/
  | createNew
  /-- Present already, and left as it is. -/
  | update
  deriving DecidableEq, Repr

namespace OutputMode

/-- The way that is taken where none is named. -/
def standard : OutputMode := truncate

/-- The word for a way to open a file. -/
def word : OutputMode → String
  | truncate => "Truncate"
  | createNew => "CreateNew"
  | update => "Update"

end OutputMode

/-- What an open asks for. -/
structure OpenOptions where
  read : Bool
  write : Bool
  /-- Whether a missing file is made. -/
  create : Bool
  /-- Whether a present file is refused. -/
  exclusive : Bool
  /-- Whether a present file is emptied. -/
  truncate : Bool
  /-- Permission bits for a file that is made. -/
  permissions : Nat
  deriving DecidableEq, Repr

namespace OpenOptions

/-- Permission bits for a file where none are named. -/
def usualPermissions : Nat := 0o666

/-- For reading. -/
def reading : OpenOptions := ⟨true, false, false, false, false, usualPermissions⟩

/-- For output in one of the ways. -/
def output (mode : OutputMode) (permissions : Option Nat) : OpenOptions :=
  let permissions := permissions.getD usualPermissions
  match mode with
  | .truncate => ⟨false, true, true, false, true, permissions⟩
  | .createNew => ⟨false, true, true, true, false, permissions⟩
  | .update => ⟨true, true, false, false, false, permissions⟩

end OpenOptions

/-- The permission bits that a file which is made does not get. -/
def withheldPermissions : Nat := 0o022

/-- The permission bits that a file gets when it is made. -/
def grantedPermissions (permissions : Nat) : Nat :=
  (permissions &&& permissionMask) &&& (permissionMask ^^^ withheldPermissions)

namespace FileSystem

/-- An open file on a node, with its cursor at the start. -/
def openNode (files : FileSystem) (options : OpenOptions) (id : NodeId) : FileSystem :=
  { files with opened := files.opened ++ [⟨id, 0, options.read, options.write, true⟩] }

/-- The file of a number with its data gone; other nodes have no data to lose. -/
def emptyFile (files : FileSystem) (id : NodeId) : FileSystem :=
  match files.node? id with
  | some (.file mode _) => files.setNode id (.file (plainMode mode) [])
  | _ => files

/-- Opens what is there.  A directory is never opened for writing. -/
def openPresent (files : FileSystem) (options : OpenOptions) (id : NodeId) :
    Except Fault FileSystem :=
  if (files.node? id).any Node.isDirectory && (options.write || options.create) then
    .error (.system Errno.isDirectory)
  else do
    if options.read then files.demand .read id
    if options.write then files.demand .write id
    let files := if options.truncate then files.emptyFile id else files
    return files.openNode options id

/-- Opens a place where a missing file is made. -/
def openMaking (files : FileSystem) (options : OpenOptions) : Place → Except Fault FileSystem
  | .standing _ _ =>
    .error (.system (if options.exclusive then Errno.entryExists else Errno.isDirectory))
  | .named chain name slash =>
    if slash then .error (.system Errno.isDirectory)
    else do
      match ← files.find chain.innermost name with
      | some id =>
        if options.exclusive then .error (.system Errno.entryExists)
        else files.openPresent options id
      | none =>
        files.demand .write chain.innermost
        let made := files.create chain.innermost name
          (.file (grantedPermissions options.permissions) [])
        return made.openNode options files.nextId

/-- The file system after opening a path. -/
def opening (files : FileSystem) (options : OpenOptions) (text : String) :
    Except Fault FileSystem := do
  if options.create then
    let manner := if options.exclusive then Manner.entry else Manner.making
    files.openMaking options (← files.locate manner text)
  else files.openPresent options (← files.lookup .through text)

/-- Opens a path and answers the number of the open file. -/
def openPath (options : OpenOptions) (text : String) : Call FileSystem Nat := fun files =>
  match files.opening options text with
  | .ok after => .ok files.opened.length after
  | .error fault => .error fault files

end FileSystem

end FileWindow

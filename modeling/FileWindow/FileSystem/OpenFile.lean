import FileWindow.Device
import FileWindow.FileSystem.Permission
import FileWindow.Limits

/-!
# Open files as devices

An open file reads and writes its node at its cursor.  Two open files of one node see each
other's writes at once.  A fifo has no cursor: what is written to it waits to be read, as long as
somebody has it open, and writing needs somebody who can read.  A descriptor that was closed fails
every call but a flush and an empty write, which do not reach it.

Main definitions:

- Definition FileSystem.device: an open file as a device.
- Definition FileSystem.closeDescriptor: closes the descriptor behind an open file.
-/

namespace FileWindow.FileSystem

/-- The first position that no signed word holds. -/
def filePositionLimit : Nat := 0x8000000000000000

/-- The open file of a number, if its descriptor is still open. -/
def live? (files : FileSystem) (handle : Nat) : Option OpenFile :=
  files.opened[handle]?.filter OpenFile.live

/-- Puts another open file in the place of one. -/
def setOpened (files : FileSystem) (handle : Nat) (file : OpenFile) : FileSystem :=
  { files with opened := files.opened.set handle file }

/-- Whether a node is open, by an open file of some sort. -/
def isOpen (files : FileSystem) (id : NodeId) (sort : OpenFile → Bool) : Bool :=
  files.opened.any fun file => file.live && file.node == id && sort file

/-- A call on an open file and its node.  Without a descriptor, or a node, it fails. -/
def withOpened {α : Type} (handle : Nat)
    (use : FileSystem → OpenFile → Node → EStateM.Result Fault FileSystem α) :
    Call FileSystem α := fun files =>
  match files.live? handle with
  | none => .error (.system Errno.badDescriptor) files
  | some file =>
    match files.node? file.node with
    | none => .error (.system Errno.badDescriptor) files
    | some node => use files file node

/-! ## Positions and sizes -/

/-- The position that a seek asks for in data of a length. -/
def seekTarget (cursor length : Nat) : RawSeek → Int
  | .start position => position
  | .current distance => cursor + distance
  | .finish distance => length + distance

/-- Moves the cursor of an open file.  A fifo has no positions, and a device has only the
first. -/
def seekFile (handle : Nat) (target : RawSeek) : Call FileSystem Nat :=
  withOpened handle fun files file node =>
    match node with
    | .fifo _ _ => .error (.system Errno.illegalSeek) files
    | .special _ => .ok 0 files
    | node =>
      let position := seekTarget file.cursor (node.contents?.getD []).size target
      if position < 0 ∨ filePositionLimit ≤ position then
        .error (.system Errno.invalidArgument) files
      else
        .ok position.toNat (files.setOpened handle { file with cursor := position.toNat })

/-- The size of a file; other nodes have none that means anything. -/
def sizeFile (handle : Nat) : Call FileSystem (Option Nat) :=
  withOpened handle fun files _ node => .ok (node.contents?.map Contents.size) files

/-! ## Transfers -/

/-- Reads from an open file at its cursor. -/
def readFile (handle length : Nat) : Call FileSystem Bytes :=
  withOpened handle fun files file node =>
    if !file.readable then .error (.system Errno.badDescriptor) files
    else
      match node with
      | .file _ contents =>
        let bytes := contents.slice file.cursor length
        .ok bytes (files.setOpened handle { file with cursor := file.cursor + bytes.length })
      | .fifo mode pending =>
        .ok (pending.take length) (files.setNode file.node (.fifo mode (pending.drop length)))
      | .directory _ _ => .error (.system Errno.isDirectory) files
      | .special .zero | .special .full => .ok (List.replicate length 0) files
      | _ => .ok [] files

/-- Writes to an open file at its cursor. -/
def writeFile (handle : Nat) : Bytes → Call FileSystem Unit
  | [] => pure ()
  | byte :: rest =>
    withOpened handle fun files file node =>
      if !file.writable then .error (.system Errno.badDescriptor) files
      else
        let bytes := byte :: rest
        match node with
        | .file mode contents =>
          let written := contents.overlay file.cursor bytes
          .ok () ((files.setNode file.node (.file (plainMode mode) written)).setOpened handle
            { file with cursor := file.cursor + bytes.length })
        | .fifo mode pending =>
          if files.isOpen file.node OpenFile.readable then
            .ok () (files.setNode file.node (.fifo mode (pending ++ bytes)))
          else .error (.system Errno.brokenPipe) files
        | .special .full => .error (.system Errno.noSpace) files
        | _ => .ok () files

/-! ## The end -/

/-- Forgets what waits in a fifo that nobody has open. -/
def settle (files : FileSystem) (id : NodeId) : FileSystem :=
  match files.node? id with
  | some (.fifo mode _) =>
    if files.isOpen id fun _ => true then files else files.setNode id (.fifo mode [])
  | _ => files

/-- Closes the descriptor behind an open file, open or not. -/
def closeDescriptor (files : FileSystem) (handle : Nat) : FileSystem :=
  match files.live? handle with
  | none => files
  | some file => (files.setOpened handle { file with live := false }).settle file.node

/-- Closes the descriptor behind an open file; it has to be open. -/
def closeFile (handle : Nat) : Call FileSystem Unit := fun files =>
  if (files.live? handle).isSome then .ok () (files.closeDescriptor handle)
  else .error (.system Errno.badDescriptor) files

/-- A second descriptor of an open file has the same cursor; so it is enough that there is a
first. -/
def duplicate (handle : Nat) : Call FileSystem Unit :=
  withOpened handle fun files _ _ => .ok () files

/-- An open file as a device.  Nothing is buffered, so a flush has nothing to do, and no call is
ever interrupted. -/
def device (handle : Nat) : Device FileSystem where
  seek := seekFile handle
  size := sizeFile handle
  read := readFile handle
  write := writeFile handle
  flush := pure ()
  close := closeFile handle
  isStandardOutput := false
  retries _ := 0
  patience _ := 0

end FileWindow.FileSystem

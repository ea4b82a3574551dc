import FileWindow.FileSystem.Open

/-!
# Changing what names stand for

Names are taken away, given to other nodes, and nodes get other permission bits.  A directory in
which a name changes has to be writable, and only its owner changes the bits of a node.

Main definitions:

- Definition FileSystem.remove: takes a name away.
- Definition FileSystem.rename: gives a node another name.
- Definition FileSystem.changeMode: changes permission bits.
- Definition FileSystem.contents, FileSystem.resize: reads a file out, and changes its length.
- Definition FileSystem.plant, FileSystem.plantAll: makes entries as they are described.
-/

namespace FileWindow.FileSystem

/-! ## Removing -/

/-- Takes the name at a place away.  A directory keeps its name, and a slash demands one. -/
def removeAt (files : FileSystem) : Place → Except Fault FileSystem
  | .standing _ _ => .error (.system Errno.isDirectory)
  | .named chain name slash => do
    match ← files.find chain.innermost name with
    | none => .error (.system Errno.noEntry)
    | some id =>
      if (files.node? id).any Node.isDirectory then .error (.system Errno.isDirectory)
      else if slash then .error (.system Errno.notDirectory)
      else
        files.demand .write chain.innermost
        return files.removeEntry chain.innermost name

/-- Takes the name that a path ends in away. -/
def remove (files : FileSystem) (text : String) : Except Fault FileSystem := do
  files.removeAt (← files.locate .entry text)

/-! ## Renaming -/

/-- Whether a walk went through the directory of the devices, which is a file system of its
own. -/
def isForeign (chain : Chain) : Bool :=
  chain.contains devices

/-- What a rename may not do, in the order in which it is found out.  A node that is given the
name it has is left alone, whatever its directory allows.  A directory that moves to another one
is itself changed. -/
def checkRename (files : FileSystem) (source : Node) (sourceId : NodeId) (sourceSlash : Bool)
    (sourceChain : Chain) (target : Option NodeId) (targetSlash : Bool) (targetChain : Chain) :
    Except Fault Unit :=
  if !source.isDirectory && (sourceSlash || targetSlash) then
    .error (.system Errno.notDirectory)
  else if targetChain.passes sourceId then .error (.system Errno.invalidArgument)
  else if target.any sourceChain.passes then .error (.system Errno.directoryNotEmpty)
  else if target = some sourceId then .ok ()
  else do
    files.demand .write sourceChain.innermost
    files.demand .write targetChain.innermost
    let replaced := target.bind files.node?
    if !source.isDirectory then
      if replaced.any Node.isDirectory then .error (.system Errno.isDirectory)
    else if replaced.any fun node => !node.isDirectory then .error (.system Errno.notDirectory)
    else
      if sourceChain.innermost != targetChain.innermost then files.demand .write sourceId
      if replaced.any fun node => !node.entries.isEmpty then
        .error (.system Errno.directoryNotEmpty)

/-- Gives the node at one place the name at another.  Places in different file systems are told
apart before anything is looked up. -/
def renameAt (files : FileSystem) (source target : Place) : Except Fault FileSystem :=
  if isForeign source.way != isForeign target.way then
    .error (.system Errno.crossDevice)
  else
    match source, target with
    | .named sourceChain sourceName sourceSlash, .named targetChain targetName targetSlash => do
      match ← files.find sourceChain.innermost sourceName with
      | none => .error (.system Errno.noEntry)
      | some id =>
        let target ← files.find targetChain.innermost targetName
        match files.node? id with
        | none => .error (.system Errno.noEntry)
        | some node =>
          files.checkRename node id sourceSlash sourceChain target targetSlash targetChain
          if target = some id then return files
          else
            let removed := files.removeEntry sourceChain.innermost sourceName
            return removed.addEntry targetChain.innermost targetName id
    | _, _ => .error (.system Errno.resourceBusy)

/-- Gives the node that one path names the name that another path writes. -/
def rename (files : FileSystem) (source target : String) : Except Fault FileSystem := do
  Path.checkText source
  Path.checkText target
  files.renameAt (← files.locate .entry source) (← files.locate .entry target)

/-! ## Permissions and contents -/

/-- Gives the node that a path leads to other permission bits. -/
def changeMode (files : FileSystem) (text : String) (mode : Nat) : Except Fault FileSystem := do
  let id ← files.lookup .through text
  if !owns id then .error (.system Errno.notPermitted)
  else
    match files.node? id with
    | none => .error (.system Errno.noEntry)
    | some node => return files.setNode id (node.withMode (mode &&& permissionMask))

/-- The data of the file that a path leads to. -/
def contents (files : FileSystem) (text : String) : Except Fault Bytes := do
  let id ← files.lookup .through text
  files.demand .read id
  match files.node? id with
  | some (.file _ contents) => return contents.toBytes
  | some (.directory _ _) => .error (.system Errno.isDirectory)
  | _ => return []

/-- Gives the file that a path leads to another length. -/
def resize (files : FileSystem) (text : String) (length : Nat) : Except Fault FileSystem := do
  let id ← files.lookup .through text
  if (files.node? id).any Node.isDirectory then .error (.system Errno.isDirectory)
  else
    files.demand .write id
    match files.node? id with
    | some (.file mode contents) =>
      return files.setNode id (.file (plainMode mode) (contents.resize length))
    | _ => .error (.system Errno.invalidArgument)

/-! ## Planting -/

/-- Makes an entry as it is described.  A file takes the place of a file that is there;
otherwise the name has to be free. -/
def plant (files : FileSystem) (text : String) (node : Node) : Except Fault FileSystem := do
  let node := node.masked
  match ← files.locate .entry text with
  | .standing _ _ => .error (.system Errno.entryExists)
  | .named chain name _ =>
    match ← files.find chain.innermost name with
    | none => return files.create chain.innermost name node
    | some id =>
      match files.node? id, node with
      | some (.file _ _), .file _ _ => return files.setNode id node
      | _, _ => .error (.system Errno.entryExists)

/-- Makes entries as they are described, one after the other.  Directories get their permission
bits when everything is in them, the inner ones first. -/
def plantAll (files : FileSystem) (entries : List (String × Node)) :
    Except Fault FileSystem := do
  let files ← entries.foldlM (fun files entry => files.plant entry.1 entry.2.unlocked) files
  entries.reverse.foldlM (fun files entry =>
    match entry.2 with
    | .directory mode _ => files.changeMode entry.1 mode
    | _ => .ok files) files

end FileWindow.FileSystem

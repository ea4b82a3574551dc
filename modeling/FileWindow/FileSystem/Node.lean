import FileWindow.Fault.Basic
import FileWindow.FileSystem.Contents

/-!
# Files, directories and links

A file system is a store of nodes, numbered in the order in which they were made.  Directories
give names to numbers, so a file whose name is gone is still there for those who have it open.
Open files are descriptions of their own: a node, a cursor, and what may be done.

Main definitions:

- Definition Node: files, directories, links and the rest.
- Definition FileSystem: the nodes and the open files.
- Definition FileSystem.fresh: the file system before anything is made in it.
- Definition FileSystem.addEntry, FileSystem.removeEntry: changes of a directory.

Main results:

- Theorems FileSystem.node?_setNode_self and FileSystem.node?_setNode_ne: a changed node reads
  back, every other node is as it was.
-/

namespace FileWindow

/-- The number of a node. -/
abbrev NodeId := Nat

/-- Devices that have a name in the file system. -/
inductive SpecialFile
  /-- Takes everything, gives nothing. -/
  | null
  /-- Takes everything, gives zeros. -/
  | zero
  /-- Takes nothing, gives zeros. -/
  | full
  deriving DecidableEq, Repr

/-- What a name can stand for. -/
inductive Node
  | file (mode : Nat) (contents : Contents)
  | directory (mode : Nat) (entries : List (String × NodeId))
  /-- A queue of bytes, with those that were written and not yet read. -/
  | fifo (mode : Nat) (pending : Bytes)
  | link (target : String)
  | special (kind : SpecialFile)
  deriving DecidableEq, Repr

/-- All permission bits. -/
def permissionMask : Nat := 0o7777

namespace Node

/-- Permission bits of a file or fifo that is made as it is described. -/
def usualFileMode : Nat := 0o644

/-- Permission bits of a directory that is made as it is described. -/
def usualDirectoryMode : Nat := 0o755

/-- Whether a node is a directory. -/
def isDirectory : Node → Bool
  | directory _ _ => true
  | _ => false

/-- The entries of a directory; other nodes have none. -/
def entries : Node → List (String × NodeId)
  | directory _ entries => entries
  | _ => []

/-- The contents of a file, if the node is one. -/
def contents? : Node → Option Contents
  | file _ contents => some contents
  | _ => none

/-- The node with other permission bits, where it has any of its own. -/
def withMode (mode : Nat) : Node → Node
  | file _ contents => file mode contents
  | directory _ entries => directory mode entries
  | fifo _ pending => fifo mode pending
  | other => other

/-- The node with nothing in its mode but permission bits. -/
def masked : Node → Node
  | file mode contents => file (mode &&& permissionMask) contents
  | directory mode entries => directory (mode &&& permissionMask) entries
  | fifo mode pending => fifo (mode &&& permissionMask) pending
  | other => other

/-- The node, where it is a directory, with bits that let its owner fill it. -/
def unlocked : Node → Node
  | directory _ entries => directory usualDirectoryMode entries
  | other => other

end Node

/-- An open file: its node, its cursor, and what may be done with it. -/
structure OpenFile where
  node : NodeId
  cursor : Nat
  readable : Bool
  writable : Bool
  /-- Whether the descriptor is still open. -/
  live : Bool
  deriving DecidableEq, Repr

/-- The nodes by number, and the files opened so far. -/
structure FileSystem where
  nodes : List Node
  opened : List OpenFile
  deriving DecidableEq, Repr

namespace FileSystem

/-! ## Places that are always there -/

/-- The root directory. -/
def root : NodeId := 0

/-- The directory of the devices. -/
def devices : NodeId := 1

/-- The directory around the working directory. -/
def surroundings : NodeId := 5

/-- The working directory. -/
def workplace : NodeId := 6

/-- The file system before anything is made in the working directory.  Everyone may make
entries in the directory around it. -/
def fresh : FileSystem where
  nodes :=
    [.directory 0o755 [("dev", devices)],
      .directory 0o755 [("null", 2), ("zero", 3), ("full", 4)],
      .special .null, .special .zero, .special .full,
      .directory 0o1777 [],
      .directory 0o755 []]
  opened := []

/-! ## Nodes -/

/-- The node of a number. -/
def node? (files : FileSystem) (id : NodeId) : Option Node :=
  files.nodes[id]?

/-- Puts another node in the place of one. -/
def setNode (files : FileSystem) (id : NodeId) (node : Node) : FileSystem :=
  { files with nodes := files.nodes.set id node }

/-- Makes a node; its number is the next one. -/
def makeNode (files : FileSystem) (node : Node) : FileSystem :=
  { files with nodes := files.nodes ++ [node] }

/-- The number of the node that is made next. -/
def nextId (files : FileSystem) : NodeId :=
  files.nodes.length

/-- A node put in a place reads back. -/
@[simp] theorem node?_setNode_self {files : FileSystem} {id : NodeId}
    (h : id < files.nodes.length) (node : Node) :
    (files.setNode id node).node? id = some node := by
  simp [setNode, node?, h]

/-- Every other node is as it was. -/
@[simp] theorem node?_setNode_ne {files : FileSystem} {id other : NodeId} (h : id ≠ other)
    (node : Node) : (files.setNode id node).node? other = files.node? other := by
  simp [setNode, node?, h]

/-! ## Directories -/

/-- The entries of a directory. -/
def entriesOf (files : FileSystem) (id : NodeId) : List (String × NodeId) :=
  (files.node? id).elim [] Node.entries

/-- Changes the entries of a directory; nothing else has entries. -/
def updateEntries (files : FileSystem) (id : NodeId)
    (change : List (String × NodeId) → List (String × NodeId)) : FileSystem :=
  match files.node? id with
  | some (.directory mode entries) => files.setNode id (.directory mode (change entries))
  | _ => files

/-- Takes a name out of a directory. -/
def removeEntry (files : FileSystem) (directory : NodeId) (name : String) : FileSystem :=
  files.updateEntries directory fun entries => entries.filter fun entry => entry.1 != name

/-- Gives a name in a directory to a node, whatever had the name before. -/
def addEntry (files : FileSystem) (directory : NodeId) (name : String) (id : NodeId) :
    FileSystem :=
  files.updateEntries directory fun entries =>
    (entries.filter fun entry => entry.1 != name) ++ [(name, id)]

/-- Makes a node and gives it a name in a directory. -/
def create (files : FileSystem) (directory : NodeId) (name : String) (node : Node) :
    FileSystem :=
  (files.makeNode node).addEntry directory name files.nextId

end FileSystem

end FileWindow

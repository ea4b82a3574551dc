import FileWindow.FileSystem.Permission

/-!
# Listing a directory

A listing shows everything below a directory, each directory before what is in it, and the names
of a directory in order.

Main definitions:

- Definition Listed: one line of a listing, a path and its node.
- Definition FileSystem.listing: the listing of the working directory.
-/

namespace FileWindow

/-- One line of a listing: a path from the listed directory, and the node that it names. -/
structure Listed where
  path : String
  node : Node
  deriving DecidableEq, Repr

namespace FileSystem

/-- The path of a name in a directory; names of the listed directory stand alone. -/
def joined (directory name : String) : String :=
  if directory.isEmpty then name else s!"{directory}/{name}"

/-- The entries of a directory in the order of their names. -/
def sortedEntries (entries : List (String × NodeId)) : List (String × NodeId) :=
  entries.mergeSort fun first second => first.1 ≤ second.1

/-- The lines below a directory, down to a depth. -/
def listingBelow (files : FileSystem) : Nat → String → NodeId → List Listed
  | 0, _, _ => []
  | depth + 1, directory, id =>
    (sortedEntries (files.entriesOf id)).flatMap fun entry =>
      match files.node? entry.2 with
      | none => []
      | some node =>
        let path := joined directory entry.1
        ⟨path, node⟩ :: files.listingBelow depth path entry.2

/-- The listing of the working directory, which is empty if the directory may not be read and
searched; the ones below it are shown in any case.  No path is longer than there are nodes. -/
def listing (files : FileSystem) : List Listed :=
  if files.grants .read workplace && files.grants .search workplace then
    files.listingBelow files.nodes.length "" workplace
  else []

end FileSystem

end FileWindow

import FileWindow.FileSystem.Path
import FileWindow.FileSystem.Permission

/-!
# Finding what a path names

A path is walked from the root or from the working directory, name by name.  The walk keeps the
chain of directories that it came through, so that it can go back up.  A link is followed by
walking its target in its place; only so many links are followed in one walk.  A name is looked
up only in a directory that may be searched.

Main definitions:

- Definition Place: where a walk ends.
- Definition FileSystem.advance: the walk up to its end or to the next link.
- Definition FileSystem.walk: the whole walk.
- Definition FileSystem.lookup: the node that a path names.
-/

namespace FileWindow

/-- The directories that a walk came through, the innermost first.  The empty chain is the root
alone. -/
abbrev Chain := List NodeId

namespace Chain

/-- The directory at which a walk stands. -/
def innermost (chain : Chain) : NodeId :=
  chain.headD FileSystem.root

/-- One directory up; the root is its own surroundings. -/
def up (chain : Chain) : Chain :=
  chain.tail

/-- Whether a directory is one of those that a walk came through. -/
def passes (chain : Chain) (id : NodeId) : Bool :=
  id == FileSystem.root || chain.contains id

end Chain

/-- Where a walk ends. -/
inductive Place
  /-- At a directory that the walk has come to, by no name of its own.  The second chain ends in
  the directory from which the last step was made. -/
  | standing (chain last : Chain)
  /-- At a name in a directory, which may or may not be there.  A slash behind it demands a
  directory. -/
  | named (chain : Chain) (name : String) (slash : Bool)
  deriving DecidableEq, Repr

/-- The directories from the root to the one in which the last step of a walk was made. -/
def Place.way : Place → Chain
  | .standing _ last => last
  | .named chain _ _ => chain

/-- How a walk treats its last name. -/
structure Manner where
  /-- Whether a link at the end is followed. -/
  follow : Bool
  /-- Whether a slash at the end is left to the caller.  Where it is not, it leads into the
  directory before it. -/
  keepSlash : Bool
  deriving DecidableEq, Repr

namespace Manner

/-- For what a path leads to. -/
def through : Manner := ⟨true, false⟩

/-- For what stands at a path itself, be it a link. -/
def itself : Manner := ⟨false, false⟩

/-- For a name that is to be taken away or given. -/
def entry : Manner := ⟨false, true⟩

/-- For a file that is made if it is missing, also through a link. -/
def making : Manner := ⟨true, true⟩

/-- The names that a path is walked by. -/
def names (manner : Manner) (path : Path) : List String :=
  if manner.keepSlash then path.names else path.fullNames

/-- The slash that is left to the caller. -/
def slash (manner : Manner) (path : Path) : Bool :=
  manner.keepSlash && path.trailing

end Manner

/-- How far a walk comes without following a link. -/
inductive Progress
  /-- To its end. -/
  | arrived (place : Place)
  /-- To a link in a directory, with some names still to walk. -/
  | meets (chain : Chain) (target : String) (rest : List String)
  deriving DecidableEq, Repr

namespace FileSystem

/-- What a name stands for in a directory. -/
def find (files : FileSystem) (directory : NodeId) (name : String) :
    Except Fault (Option NodeId) :=
  if Path.longestName < name.utf8ByteSize then .error (.system Errno.nameTooLong)
  else .ok ((files.entriesOf directory).lookup name)

/-- The target of the link that a name stands for, if it is a link. -/
def linkAt (files : FileSystem) (directory : NodeId) (name : String) : Option String :=
  match files.find directory name with
  | .ok (some id) =>
    match files.node? id with
    | some (.link target) => some target
    | _ => none
  | _ => none

/-- Walks names up to the end, or to the first link that has to be followed. -/
def advance (files : FileSystem) (follow slash : Bool) :
    Chain → List String → Except Fault Progress
  | chain, [] => .ok (.arrived (.standing chain chain))
  | chain, name :: rest =>
    if name = Path.here then files.advance follow slash chain rest
    else do
      files.demand .search chain.innermost
      if name = Path.self then files.advance follow slash chain rest
      else if name = Path.around then
        if rest.isEmpty then .ok (.arrived (.standing chain.up chain))
        else files.advance follow slash chain.up rest
      else if rest.isEmpty then
        match files.linkAt chain.innermost name with
        | some target =>
          if follow && !slash then .ok (.meets chain target [])
          else .ok (.arrived (.named chain name slash))
        | none => .ok (.arrived (.named chain name slash))
      else
        match ← files.find chain.innermost name with
        | none => .error (.system Errno.noEntry)
        | some id =>
          match files.node? id with
          | some (.directory _ _) => files.advance follow slash (id :: chain) rest
          | some (.link target) => .ok (.meets chain target rest)
          | _ => .error (.system Errno.notDirectory)

/-- The most links that one walk follows. -/
def linkLimit : Nat := 40

/-- Where the walk of a path starts. -/
def start (chain : Chain) (path : Path) : Chain :=
  if path.absolute then [] else chain

/-- The way from the root to the working directory. -/
def wayToWorkplace : Chain := [workplace, surroundings]

/-- Walks names to the end, following so many links at most. -/
def walk (files : FileSystem) (manner : Manner) :
    Nat → Chain → List String → Bool → Except Fault Place
  | links, chain, names, slash => do
    match ← files.advance manner.follow slash chain names with
    | .arrived place => .ok place
    | .meets chain target rest =>
      match links with
      | 0 => .error (.system Errno.linkLoop)
      | links + 1 =>
        let path := Path.ofText target
        files.walk manner links (start chain path) (manner.names path ++ rest)
          (if rest.isEmpty then manner.slash path else slash)

/-- Where a path leads. -/
def locate (files : FileSystem) (manner : Manner) (text : String) : Except Fault Place := do
  let path ← Path.parse text
  files.walk manner linkLimit (start wayToWorkplace path) (manner.names path) (manner.slash path)

/-- The node at a place, which has to be there. -/
def nodeAt (files : FileSystem) : Place → Except Fault NodeId
  | .standing chain _ => .ok chain.innermost
  | .named chain name _ => do
    match ← files.find chain.innermost name with
    | some id => .ok id
    | none => .error (.system Errno.noEntry)

/-- The node that a path names, or leads to if links at its end are followed. -/
def lookup (files : FileSystem) (manner : Manner) (text : String) : Except Fault NodeId := do
  files.nodeAt (← files.locate manner text)

end FileSystem

end FileWindow

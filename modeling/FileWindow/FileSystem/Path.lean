import FileWindow.Fault.Basic

/-!
# Paths

A path is a row of names with slashes between them.  Several slashes count as one; a slash in
front makes the path start at the root, and a slash at the end demands a directory.

Main definitions:

- Definition Path: the names of a path, and where it has slashes around them.
- Definition Path.parse: the path of a text, if the text is one.
-/

namespace FileWindow

/-- A path by its names. -/
structure Path where
  /-- Whether the path starts at the root. -/
  absolute : Bool
  /-- The names between the slashes. -/
  names : List String
  /-- Whether the path ends in a slash. -/
  trailing : Bool
  deriving DecidableEq, Repr

namespace Path

/-- The longest name, in bytes. -/
def longestName : Nat := 255

/-- The first length of a path, in bytes, that is too long. -/
def lengthLimit : Nat := 4096

/-- The name by which a directory calls itself. -/
def self : String := "."

/-- The name by which a directory calls the one around it. -/
def around : String := ".."

/-- The empty name, which no entry has: the directory that a walk has come to.  Unlike the name
by which a directory calls itself, it is not looked up. -/
def here : String := ""

/-- The parts between the slashes of a text, the empty ones included. -/
def segments : List Char → List (List Char)
  | [] => [[]]
  | character :: rest =>
    if character = '/' then [] :: segments rest
    else
      match segments rest with
      | [] => [[character]]
      | first :: others => (character :: first) :: others

/-- The path that a text writes. -/
def ofText (text : String) : Path :=
  let characters := text.toList
  { absolute := characters.head? == some '/'
    names := ((segments characters).filter fun part => !part.isEmpty).map String.ofList
    trailing := characters.getLast? == some '/' }

/-- A text with a NUL in it writes no path, which is found out before anything is looked up. -/
def checkText (text : String) : Except Fault Unit :=
  if text.toList.contains '\x00' then .error (.plain .invalidInput) else .ok ()

/-- The path of a text.  No path contains a NUL, none is empty, and none is too long. -/
def parse (text : String) : Except Fault Path := do
  checkText text
  if text.isEmpty then .error (.system Errno.noEntry)
  else if lengthLimit ≤ text.utf8ByteSize then .error (.system Errno.nameTooLong)
  else .ok (ofText text)

/-- The names to walk where a slash at the end demands a directory: such a path goes on to what
is behind the slash, which is the directory. -/
def fullNames (path : Path) : List String :=
  if path.trailing then path.names ++ [here] else path.names

end Path

end FileWindow

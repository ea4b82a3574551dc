import FileWindow.Console
import FileWindow.FileSystem.Entry
import FileWindow.FileSystem.OpenFile
import FileWindow.Stream

/-!
# The world of a session

Streams, open files and standard output side by side.  What backs a resource is one of them, and
as a device it acts on the whole world by way of its own part.

Main definitions:

- Definition World: files, standard output and streams.
- Definition Backing: what a resource stands on.
- Definition World.device: the device of a backing.
-/

namespace FileWindow

/-- Files, standard output and streams side by side. -/
structure World where
  files : FileSystem
  console : Console
  streams : List Stream
  deriving Repr

/-- What a resource stands on. -/
inductive Backing
  /-- A stream, by number. -/
  | stream (index : Nat)
  /-- An open file, by number. -/
  | file (handle : Nat)
  /-- Standard output. -/
  | console
  /-- Nothing: the resource was never open. -/
  | nothing
  deriving DecidableEq, Repr

namespace World

/-- The world before anything is opened in it. -/
def fresh (sink : ConsoleSink) : World := ⟨.fresh, .fresh sink, []⟩

/-- The stream of a number; an empty one where there is none. -/
def stream (world : World) (index : Nat) : Stream :=
  world.streams.getD index (.plain [] 0)

/-- Puts another stream in the place of one. -/
def setStream (index : Nat) (stream : Stream) (world : World) : World :=
  { world with streams := world.streams.set index stream }

/-- Puts another file system in place. -/
def setFiles (files : FileSystem) (world : World) : World :=
  { world with files }

/-- Puts another standard output in place. -/
def setConsole (console : Console) (world : World) : World :=
  { world with console }

/-- The world with some entries made in its working directory, if they can be made. -/
def plant (world : World) (entries : List (String × Node)) : Except Fault World := do
  return world.setFiles (← world.files.plantAll entries)

/-- Adds a stream; its number is the next one. -/
def addStream (stream : Stream) (world : World) : World :=
  { world with streams := world.streams ++ [stream] }

/-- A device that is not there: every call fails. -/
def absent : Device World where
  seek _ := throw (.system Errno.badDescriptor)
  size := throw (.system Errno.badDescriptor)
  read _ := throw (.system Errno.badDescriptor)
  write _ := throw (.system Errno.badDescriptor)
  flush := throw (.system Errno.badDescriptor)
  close := throw (.system Errno.badDescriptor)
  isStandardOutput := false
  retries _ := 0
  patience _ := 0

/-- The device of a backing. -/
def device : Backing → Device World
  | .stream index => Stream.device.within (stream · index) (setStream index)
  | .file handle => (FileSystem.device handle).within files setFiles
  | .console => Console.device.within console setConsole
  | .nothing => absent

end World

end FileWindow

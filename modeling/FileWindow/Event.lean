import FileWindow.Extent

/-!
# The journal

Operations report what they do as events.  Each event has a level and a text; a reader of the
journal keeps those at or above a level.

Main definitions:

- Definition Event: what operations report.
- Definition Event.level, Event.text: how an event is shown.
- Definition Journal.lines: the lines of a journal at or above a level.
-/

namespace FileWindow

/-! ## Levels -/

/-- The weight of an event. -/
inductive Level
  | error
  | warn
  | info
  | debug
  | trace
  deriving DecidableEq, Repr

namespace Level

/-- The word that begins a line of a level. -/
def word : Level → String
  | error => "ERROR"
  | warn => "WARN"
  | info => "INFO"
  | debug => "DEBUG"
  | trace => "TRACE"

/-- How far down a level stands; the weightiest stands first. -/
def rank : Level → Nat
  | error => 1
  | warn => 2
  | info => 3
  | debug => 4
  | trace => 5

end Level

/-! ## Events -/

/-- What operations report. -/
inductive Event
  /-- A device was bound to a name. -/
  | opened (name : String) (length : Nat)
  /-- A seek went through to the device. -/
  | sought (name : String) (distance : Int) (whence : Whence) (landed : Nat)
  /-- An extent was set. -/
  | extentSet (name : String) (extent : Extent)
  /-- An extent was widened to the whole resource. -/
  | extentUnset (name : String) (length : Nat)
  /-- Bytes were read. -/
  | didRead (name : String) (count wanted position : Nat)
  /-- Bytes were written. -/
  | didWrite (name : String) (count total : Nat)
  /-- A device is about to be released. -/
  | closing (name : String)
  /-- Closing failed after an earlier failure, which stands. -/
  | closeSuppressed (closeError first : FileError)
  /-- Closing failed where nobody could be told. -/
  | closeFailedOnDrop (name : String) (error : FileError)
  /-- Closing failed while another failure was on its way. -/
  | closeFailedUnwinding (name : String) (error : FileError)
  /-- Standard output is a terminal and was left alone. -/
  | terminalRefused (name : String)
  /-- A buffer is about to be written out as a file. -/
  | dumping (path : String) (count : Nat)
  /-- A file could not be removed. -/
  | notRemoved (path : String)
  deriving DecidableEq, Repr

namespace Event

/-- The weight of an event: positions and transfers are details, a close that nobody hears of
failing is an error. -/
def level : Event → Level
  | opened .. => .debug
  | sought .. => .trace
  | extentSet .. => .debug
  | extentUnset .. => .debug
  | didRead .. => .trace
  | didWrite .. => .trace
  | closing .. => .debug
  | closeSuppressed .. => .debug
  | closeFailedOnDrop .. => .error
  | closeFailedUnwinding .. => .debug
  | terminalRefused .. => .debug
  | dumping .. => .debug
  | notRemoved .. => .warn

/-- The words of an event. -/
def text : Event → String
  | opened name length => s!"{name}: opened, {length} bytes"
  | sought name distance whence landed =>
    s!"{name}: seek {distance} {whence.word} -> raw {landed}"
  | extentSet name extent => s!"{name}: extent set to {extent.offset}+{extent.length}"
  | extentUnset name length => s!"{name}: extent unset, {length} bytes"
  | didRead name count wanted position => s!"{name}: read {count}/{wanted} at {position}"
  | didWrite name count total => s!"{name}: wrote {count}, {total} total"
  | closing name => s!"{name}: closing"
  | closeSuppressed closeError first =>
    s!"suppressed close failure ({closeError.message}) after: {first.message}"
  | closeFailedOnDrop name error => s!"{name}: close failed on drop: {error.message}"
  | closeFailedUnwinding name error =>
    s!"{name}: close failed during unwinding: {error.message}"
  | terminalRefused name => s!"{name}: refusing to write to a terminal"
  | dumping path count => s!"dumping {count} bytes to {path}"
  | notRemoved path => s!"{path}: could not be removed"

/-- The line of an event: its level and its words. -/
def line (event : Event) : String :=
  s!"{event.level.word} {event.text}"

end Event

/-! ## The journal -/

/-- Events in the order of their happening, the newest first. -/
abbrev Journal := List Event

namespace Journal

/-- The lines of a journal at or above a level, the oldest first; no level shows none. -/
def lines (journal : Journal) (threshold : Option Level) : List String :=
  match threshold with
  | none => []
  | some lowest =>
    (journal.reverse.filter fun event => event.level.rank ≤ lowest.rank).map Event.line

end Journal

end FileWindow

import FileWindow.Fault.Errno

/-!
# Errors of windowed resources

Every failure but one names the resource it belongs to, so that a front end can report it as it
is.  This file gives the errors, their messages, and the reasons for which an operation is
refused or an attempt fails.

Main definitions:

- Definition FileError: the errors.
- Definition FileError.message: the text of an error.
- Definition Refusal: why an operation is refused before anything is tried.
- Definition Attempt: what was being tried when a device failed.

Main results:

- Theorem FileError.code_refused: a refusal carries no error number.
- Theorem FileError.name_refused: a refusal names its resource.
-/

namespace FileWindow

/-! ## Errors -/

/-- A failure of a windowed resource. -/
inductive FileError
  /-- The named file does not exist. -/
  | notFound (name : String) (code : Errno)
  /-- The named file exists and was required not to. -/
  | alreadyExists (name : String) (code : Errno)
  /-- An exact read found fewer bytes than it demanded. -/
  | endOfInput (name : String)
  /-- An operation was refused, or the system or the stream behind it failed. -/
  | failed (name context : String) (code : Option Errno)
  /-- The library was used in a way that can never succeed. -/
  | misuse (text : String)
  deriving DecidableEq, Repr

namespace FileError

/-- The resource that an error belongs to, if any. -/
def name : FileError → Option String
  | notFound name _ => some name
  | alreadyExists name _ => some name
  | endOfInput name => some name
  | failed name _ _ => some name
  | misuse _ => none

/-- The error number that an error carries, if any. -/
def code : FileError → Option Errno
  | notFound _ code => some code
  | alreadyExists _ code => some code
  | endOfInput _ => none
  | failed _ _ code => code
  | misuse _ => none

/-- The text of an error. -/
def message : FileError → String
  | notFound name _ => s!"{name}: file not found"
  | alreadyExists name _ => s!"{name}: file already exists"
  | endOfInput name => s!"{name}: premature end of file"
  | failed name context none => s!"{name}: {context}"
  | failed name context (some code) => s!"{name}: {context} ({code.describe})"
  | misuse text => s!"internal error: {text}"

/-- The kind of fault that an error becomes when it is passed on as one. -/
def kind : FileError → FaultKind
  | notFound _ _ => .notFound
  | alreadyExists _ _ => .alreadyExists
  | endOfInput _ => .unexpectedEof
  | failed _ _ (some code) => code.kind
  | failed _ _ none => .other
  | misuse _ => .other

end FileError

/-! ## Reasons -/

/-- The operations that ask for an open resource. -/
inductive OpenOperation
  | seek
  | tell
  | sizeQuery
  | setExtent
  | unsetExtent
  | write
  | intoStream
  | duplicate
  deriving DecidableEq, Repr

/-- The word for an operation in an error message. -/
def OpenOperation.word : OpenOperation → String
  | seek => "seek"
  | tell => "tell"
  | sizeQuery => "size query"
  | setExtent => "set_extent"
  | unsetExtent => "unset_extent"
  | write => "write"
  | intoStream => "into_stream"
  | duplicate => "dup"

/-- Why an operation is refused before anything is tried. -/
inductive Refusal
  /-- The resource is closed. -/
  | notOpen (operation : OpenOperation)
  /-- A seek distance is above the bound on transfers. -/
  | seekDistance
  /-- A seek from the start has a negative offset. -/
  | seekNegative
  /-- A seek target is no position at all. -/
  | seekOverflow
  /-- A seek from the end goes forward. -/
  | seekPastEnd
  /-- A seek from the end goes back further than the extent reaches. -/
  | seekBeforeExtent
  /-- A seek from the current position leaves the range of positions. -/
  | seekBeforeFile
  /-- A seek lands beyond the end that the resource allows. -/
  | seekBeyondExtent
  /-- The raw position lies before the extent. -/
  | positionBeforeExtent
  /-- An extent would start behind the last byte. -/
  | extentPastEnd
  /-- A read length is above the bound, or more than the buffer holds. -/
  | readLength
  /-- A write length is above the bound, or more than the buffer holds. -/
  | writeLength
  deriving DecidableEq, Repr

/-- The words for a refusal in an error message. -/
def Refusal.context : Refusal → String
  | notOpen operation => s!"bad {operation.word}: file is not open"
  | seekDistance => "bad seek"
  | seekNegative => "bad seek: negative offset"
  | seekOverflow => "bad seek: offset overflow"
  | seekPastEnd => "bad seek: past end of extent"
  | seekBeforeExtent => "bad seek: before start of extent"
  | seekBeforeFile => "bad seek: before start of file"
  | seekBeyondExtent => "bad seek: beyond end of extent"
  | positionBeforeExtent => "position before start of extent"
  | extentPastEnd => "extent starts past end of file"
  | readLength => "bad read"
  | writeLength => "bad write"

/-- What was being tried when the device or the file system failed. -/
inductive Attempt
  | opening
  | querySize
  | determineSize
  | tell
  | seek
  | read
  | write
  | flush
  | close
  | duplicate
  | changeMode
  | rename
  | unlink
  deriving DecidableEq, Repr

/-- The words for an attempt in an error message. -/
def Attempt.context : Attempt → String
  | opening => "cannot open"
  | querySize => "cannot query size"
  | determineSize => "cannot determine size"
  | tell => "tell error"
  | seek => "seek error"
  | read => "read error"
  | write => "write error"
  | flush => "flush failed"
  | close => "close failed"
  | duplicate => "dup"
  | changeMode => "chmod error"
  | rename => "rename error"
  | unlink => "unlink error"

namespace FileError

/-- The error of an operation on the named resource that was refused. -/
def refused (name : String) (reason : Refusal) : FileError :=
  failed name reason.context none

/-- The error of an attempt on the named resource that failed with an error number. -/
def broken (name : String) (attempt : Attempt) (code : Errno) : FileError :=
  failed name attempt.context (some code)

/-- The error of a resource whose size is needed and cannot be known. -/
def unmeasured (name : String) : FileError :=
  broken name .determineSize Errno.illegalSeek

/-- A refusal carries no error number. -/
@[simp] theorem code_refused (name : String) (reason : Refusal) :
    (refused name reason).code = none :=
  rfl

/-- A refusal names its resource. -/
@[simp] theorem name_refused (resource : String) (reason : Refusal) :
    (refused resource reason).name = some resource :=
  rfl

/-- A failed attempt carries the error number of the failure. -/
@[simp] theorem code_broken (name : String) (attempt : Attempt) (code : Errno) :
    (broken name attempt code).code = some code :=
  rfl

/-- A failed attempt names its resource. -/
@[simp] theorem name_broken (resource : String) (attempt : Attempt) (code : Errno) :
    (broken resource attempt code).name = some resource :=
  rfl

end FileError

end FileWindow

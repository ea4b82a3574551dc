/-!
# Kinds of faults

A device that fails says what kind of failure it was.  This file lists the kinds and their names.

Main definitions:

- Definition FaultKind: the kinds.
- Definition FaultKind.name: the name of a kind.
- Definition FaultKind.ofName?: the kind of a name.

Main results:

- Theorem FaultKind.ofName?_name: every kind is found by its name.
-/

namespace FileWindow

/-- What went wrong, as far as a device tells. -/
inductive FaultKind
  | notFound
  | permissionDenied
  | connectionRefused
  | connectionReset
  | hostUnreachable
  | networkUnreachable
  | connectionAborted
  | notConnected
  | addressInUse
  | addressNotAvailable
  | networkDown
  | brokenPipe
  | alreadyExists
  | wouldBlock
  | notADirectory
  | isADirectory
  | directoryNotEmpty
  | readOnlyFilesystem
  | filesystemLoop
  | staleNetworkFileHandle
  | invalidInput
  | invalidData
  | timedOut
  | writeZero
  | storageFull
  | notSeekable
  | quotaExceeded
  | fileTooLarge
  | resourceBusy
  | executableFileBusy
  | deadlock
  | crossesDevices
  | tooManyLinks
  | tooManyOpenFiles
  | invalidFilename
  | argumentListTooLong
  | interrupted
  | unsupported
  | unexpectedEof
  | outOfMemory
  | inProgress
  | inputOutputError
  | other
  | uncategorized
  deriving DecidableEq, Repr

namespace FaultKind

/-- The name under which a kind is reported. -/
def name : FaultKind → String
  | notFound => "NotFound"
  | permissionDenied => "PermissionDenied"
  | connectionRefused => "ConnectionRefused"
  | connectionReset => "ConnectionReset"
  | hostUnreachable => "HostUnreachable"
  | networkUnreachable => "NetworkUnreachable"
  | connectionAborted => "ConnectionAborted"
  | notConnected => "NotConnected"
  | addressInUse => "AddrInUse"
  | addressNotAvailable => "AddrNotAvailable"
  | networkDown => "NetworkDown"
  | brokenPipe => "BrokenPipe"
  | alreadyExists => "AlreadyExists"
  | wouldBlock => "WouldBlock"
  | notADirectory => "NotADirectory"
  | isADirectory => "IsADirectory"
  | directoryNotEmpty => "DirectoryNotEmpty"
  | readOnlyFilesystem => "ReadOnlyFilesystem"
  | filesystemLoop => "FilesystemLoop"
  | staleNetworkFileHandle => "StaleNetworkFileHandle"
  | invalidInput => "InvalidInput"
  | invalidData => "InvalidData"
  | timedOut => "TimedOut"
  | writeZero => "WriteZero"
  | storageFull => "StorageFull"
  | notSeekable => "NotSeekable"
  | quotaExceeded => "QuotaExceeded"
  | fileTooLarge => "FileTooLarge"
  | resourceBusy => "ResourceBusy"
  | executableFileBusy => "ExecutableFileBusy"
  | deadlock => "Deadlock"
  | crossesDevices => "CrossesDevices"
  | tooManyLinks => "TooManyLinks"
  | tooManyOpenFiles => "TooManyOpenFiles"
  | invalidFilename => "InvalidFilename"
  | argumentListTooLong => "ArgumentListTooLong"
  | interrupted => "Interrupted"
  | unsupported => "Unsupported"
  | unexpectedEof => "UnexpectedEof"
  | outOfMemory => "OutOfMemory"
  | inProgress => "InProgress"
  | inputOutputError => "InputOutputError"
  | other => "Other"
  | uncategorized => "Uncategorized"

/-- Every kind, in the order of the list above. -/
def all : List FaultKind :=
  [notFound, permissionDenied, connectionRefused, connectionReset, hostUnreachable,
    networkUnreachable, connectionAborted, notConnected, addressInUse, addressNotAvailable,
    networkDown, brokenPipe, alreadyExists, wouldBlock, notADirectory, isADirectory,
    directoryNotEmpty, readOnlyFilesystem, filesystemLoop, staleNetworkFileHandle, invalidInput,
    invalidData, timedOut, writeZero, storageFull, notSeekable, quotaExceeded, fileTooLarge,
    resourceBusy, executableFileBusy, deadlock, crossesDevices, tooManyLinks, tooManyOpenFiles,
    invalidFilename, argumentListTooLong, interrupted, unsupported, unexpectedEof, outOfMemory,
    inProgress, inputOutputError, other, uncategorized]

/-- The kind that has a name, if one has it. -/
def ofName? (text : String) : Option FaultKind :=
  all.find? fun kind => kind.name == text

/-- Every kind is found by its name. -/
theorem ofName?_name (kind : FaultKind) : ofName? kind.name = some kind := by
  cases kind <;> decide

end FaultKind

end FileWindow

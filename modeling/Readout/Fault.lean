/-
# Faults of devices, streams and files

A fault is what an input or output operation reports when it fails: its kind, by which the library
decides how to go on, and a text for people.
-/

namespace Readout

/-- What went wrong with an input or output operation. -/
inductive FaultKind where
  | notFound
  | permissionDenied
  | connectionRefused
  | connectionReset
  | connectionAborted
  | notConnected
  | addressInUse
  | addressNotAvailable
  | hostUnreachable
  | networkUnreachable
  | networkDown
  | brokenPipe
  | alreadyExists
  | wouldBlock
  | notADirectory
  | isADirectory
  | directoryNotEmpty
  | readOnlyFilesystem
  | staleNetworkFileHandle
  | storageFull
  | notSeekable
  | quotaExceeded
  | fileTooLarge
  | resourceBusy
  | executableFileBusy
  | deadlock
  | crossesDevices
  | tooManyLinks
  | invalidFilename
  | argumentListTooLong
  | invalidInput
  | invalidData
  | timedOut
  | writeZero
  | interrupted
  | unsupported
  | unexpectedEnd
  | outOfMemory
  | other
  deriving DecidableEq, Repr, Inhabited

namespace FaultKind

/-- All kinds of fault. -/
def all : List FaultKind :=
  [notFound, permissionDenied, connectionRefused, connectionReset, connectionAborted, notConnected,
    addressInUse, addressNotAvailable, hostUnreachable, networkUnreachable, networkDown, brokenPipe,
    alreadyExists, wouldBlock, notADirectory, isADirectory, directoryNotEmpty, readOnlyFilesystem,
    staleNetworkFileHandle, storageFull, notSeekable, quotaExceeded, fileTooLarge, resourceBusy,
    executableFileBusy, deadlock, crossesDevices, tooManyLinks, invalidFilename, argumentListTooLong,
    invalidInput, invalidData, timedOut, writeZero, interrupted, unsupported, unexpectedEnd,
    outOfMemory, other]

end FaultKind

/-- A failed input or output operation. -/
structure Fault where
  kind : FaultKind
  /-- What is told to people. -/
  text : String
  deriving DecidableEq, Repr, Inhabited

namespace Fault

/-- Whether a deadline passed rather than something broke. -/
def isTimeout (f : Fault) : Bool := f.kind == .wouldBlock || f.kind == .timedOut

/-- A fault without a kind of its own. -/
def other (text : String) : Fault := ⟨.other, text⟩

/-- Nothing listens at the address. -/
def refused : Fault := ⟨.connectionRefused, "Connection refused (os error 111)"⟩

/-- A name stands for no address. -/
def unknownHost : Fault :=
  other "failed to lookup address information: Name or service not known"

/-- The file is missing. -/
def notFound : Fault := ⟨.notFound, "No such file or directory (os error 2)"⟩

/-- The name is taken. -/
def alreadyExists : Fault := ⟨.alreadyExists, "File exists (os error 17)"⟩

/-- A file was expected where a directory is. -/
def isADirectory : Fault := ⟨.isADirectory, "Is a directory (os error 21)"⟩

/-- A directory was expected where a file is. -/
def notADirectory : Fault := ⟨.notADirectory, "Not a directory (os error 20)"⟩

/-- A path, or a name in it, is longer than any can be. -/
def nameTooLong : Fault := ⟨.invalidFilename, "File name too long (os error 36)"⟩

/-- A name has a character in it that ends names. -/
def strayEnd : Fault := ⟨.invalidInput, "file name contained an unexpected NUL byte"⟩

/-- A wait of no time was asked for. -/
def noWait : Fault := ⟨.invalidInput, "cannot set a 0 duration timeout"⟩

end Fault

end Readout

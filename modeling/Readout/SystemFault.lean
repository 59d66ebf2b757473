/-
# Faults by number

Operating systems number what can go wrong with an input or output operation.  The numbers and the
words for them are those of Linux; a number that is not listed has no kind of its own and is told in
the words that came with it.
-/
import Readout.Fault

namespace Readout.Fault

/-- The numbers that are known, with the kind and the words of each. -/
def numbered : List (Nat × FaultKind × String) :=
  [(1, .permissionDenied, "Operation not permitted"),
    (2, .notFound, "No such file or directory"),
    (4, .interrupted, "Interrupted system call"),
    (7, .argumentListTooLong, "Argument list too long"),
    (11, .wouldBlock, "Resource temporarily unavailable"),
    (12, .outOfMemory, "Cannot allocate memory"),
    (13, .permissionDenied, "Permission denied"),
    (16, .resourceBusy, "Device or resource busy"),
    (17, .alreadyExists, "File exists"),
    (18, .crossesDevices, "Invalid cross-device link"),
    (20, .notADirectory, "Not a directory"),
    (21, .isADirectory, "Is a directory"),
    (22, .invalidInput, "Invalid argument"),
    (26, .executableFileBusy, "Text file busy"),
    (27, .fileTooLarge, "File too large"),
    (28, .storageFull, "No space left on device"),
    (29, .notSeekable, "Illegal seek"),
    (30, .readOnlyFilesystem, "Read-only file system"),
    (31, .tooManyLinks, "Too many links"),
    (32, .brokenPipe, "Broken pipe"),
    (35, .deadlock, "Resource deadlock avoided"),
    (36, .invalidFilename, "File name too long"),
    (38, .unsupported, "Function not implemented"),
    (39, .directoryNotEmpty, "Directory not empty"),
    (95, .unsupported, "Operation not supported"),
    (98, .addressInUse, "Address already in use"),
    (99, .addressNotAvailable, "Cannot assign requested address"),
    (100, .networkDown, "Network is down"),
    (101, .networkUnreachable, "Network is unreachable"),
    (103, .connectionAborted, "Software caused connection abort"),
    (104, .connectionReset, "Connection reset by peer"),
    (107, .notConnected, "Transport endpoint is not connected"),
    (110, .timedOut, "Connection timed out"),
    (111, .connectionRefused, "Connection refused"),
    (113, .hostUnreachable, "No route to host"),
    (116, .staleNetworkFileHandle, "Stale file handle"),
    (122, .quotaExceeded, "Disk quota exceeded")]

/-- The fault with a number; the words count if the number is not known. -/
def ofNumber (number : Nat) (words : String) : Fault :=
  match numbered.lookup number with
  | some (kind, known) => ⟨kind, known ++ " (os error " ++ toString number ++ ")"⟩
  | none => .other words

end Readout.Fault

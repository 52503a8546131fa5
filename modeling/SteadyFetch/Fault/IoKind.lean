import SteadyFetch.Fault.SystemText

set_option autoImplicit false

/-! # I/O faults

A failed operation on a file or a stream: what kind of failure it is, and its wording. A fault either
brings its own message, or is a bare kind worded by that kind, or carries a number of the system, or
comes from a failed transfer. The last two determine their kind. -/

namespace SteadyFetch

/-- What kind of failure an operation met. -/
inductive IoKind where
  | addrInUse
  | addrNotAvailable
  | alreadyExists
  | argumentListTooLong
  | brokenPipe
  | connectionAborted
  | connectionRefused
  | connectionReset
  | crossesDevices
  | deadlock
  | directoryNotEmpty
  | executableFileBusy
  | fileTooLarge
  | filesystemLoop
  | hostUnreachable
  | inProgress
  | inputOutputError
  | interrupted
  | invalidData
  | invalidFilename
  | invalidInput
  | isADirectory
  | networkDown
  | networkUnreachable
  | notADirectory
  | notConnected
  | notFound
  | notSeekable
  | other
  | outOfMemory
  | permissionDenied
  | quotaExceeded
  | readOnlyFilesystem
  | resourceBusy
  | staleNetworkFileHandle
  | storageFull
  | timedOut
  | tooManyLinks
  | uncategorized
  | unexpectedEof
  | unsupported
  | wouldBlock
  | writeZero
  deriving DecidableEq, Repr

namespace IoKind

/-- Every kind with its name and its wording. -/
def catalogue : List (IoKind × String × String) := [
  (.addrInUse, "AddrInUse", "address in use"),
  (.addrNotAvailable, "AddrNotAvailable", "address not available"),
  (.alreadyExists, "AlreadyExists", "entity already exists"),
  (.argumentListTooLong, "ArgumentListTooLong", "argument list too long"),
  (.brokenPipe, "BrokenPipe", "broken pipe"),
  (.connectionAborted, "ConnectionAborted", "connection aborted"),
  (.connectionRefused, "ConnectionRefused", "connection refused"),
  (.connectionReset, "ConnectionReset", "connection reset"),
  (.crossesDevices, "CrossesDevices", "cross-device link or rename"),
  (.deadlock, "Deadlock", "deadlock"),
  (.directoryNotEmpty, "DirectoryNotEmpty", "directory not empty"),
  (.executableFileBusy, "ExecutableFileBusy", "executable file busy"),
  (.fileTooLarge, "FileTooLarge", "file too large"),
  (.filesystemLoop, "FilesystemLoop", "filesystem loop or indirection limit (e.g. symlink loop)"),
  (.hostUnreachable, "HostUnreachable", "host unreachable"),
  (.inProgress, "InProgress", "in progress"),
  (.inputOutputError, "InputOutputError", "input/output error"),
  (.interrupted, "Interrupted", "operation interrupted"),
  (.invalidData, "InvalidData", "invalid data"),
  (.invalidFilename, "InvalidFilename", "invalid filename"),
  (.invalidInput, "InvalidInput", "invalid input parameter"),
  (.isADirectory, "IsADirectory", "is a directory"),
  (.networkDown, "NetworkDown", "network down"),
  (.networkUnreachable, "NetworkUnreachable", "network unreachable"),
  (.notADirectory, "NotADirectory", "not a directory"),
  (.notConnected, "NotConnected", "not connected"),
  (.notFound, "NotFound", "entity not found"),
  (.notSeekable, "NotSeekable", "seek on unseekable file"),
  (.other, "Other", "other error"),
  (.outOfMemory, "OutOfMemory", "out of memory"),
  (.permissionDenied, "PermissionDenied", "permission denied"),
  (.quotaExceeded, "QuotaExceeded", "quota exceeded"),
  (.readOnlyFilesystem, "ReadOnlyFilesystem", "read-only filesystem or storage medium"),
  (.resourceBusy, "ResourceBusy", "resource busy"),
  (.staleNetworkFileHandle, "StaleNetworkFileHandle", "stale network file handle"),
  (.storageFull, "StorageFull", "no storage space"),
  (.timedOut, "TimedOut", "timed out"),
  (.tooManyLinks, "TooManyLinks", "too many links"),
  (.uncategorized, "Uncategorized", "uncategorized error"),
  (.unexpectedEof, "UnexpectedEof", "unexpected end of file"),
  (.unsupported, "Unsupported", "unsupported"),
  (.wouldBlock, "WouldBlock", "operation would block"),
  (.writeZero, "WriteZero", "write zero")]

/-- The name of a kind. -/
def name (k : IoKind) : String := ((catalogue.lookup k).map (·.1)).getD ""

/-- The wording of a kind. -/
def description (k : IoKind) : String := ((catalogue.lookup k).map (·.2)).getD ""

/-- The kind of that name. -/
def ofName? (name : String) : Option IoKind :=
  (catalogue.find? fun entry => entry.2.1 == name).map (·.1)

/-- The kind of the system's error numbers. -/
def ofSystem : Nat → IoKind
  | 1 | 13 => .permissionDenied
  | 2 => .notFound
  | 4 => .interrupted
  | 5 => .inputOutputError
  | 7 => .argumentListTooLong
  | 11 => .wouldBlock
  | 12 => .outOfMemory
  | 16 => .resourceBusy
  | 17 => .alreadyExists
  | 18 => .crossesDevices
  | 20 => .notADirectory
  | 21 => .isADirectory
  | 22 => .invalidInput
  | 26 => .executableFileBusy
  | 27 => .fileTooLarge
  | 28 => .storageFull
  | 29 => .notSeekable
  | 30 => .readOnlyFilesystem
  | 31 => .tooManyLinks
  | 32 => .brokenPipe
  | 35 => .deadlock
  | 36 => .invalidFilename
  | 38 | 95 => .unsupported
  | 39 => .directoryNotEmpty
  | 40 => .filesystemLoop
  | 98 => .addrInUse
  | 99 => .addrNotAvailable
  | 100 => .networkDown
  | 101 => .networkUnreachable
  | 103 => .connectionAborted
  | 104 => .connectionReset
  | 107 => .notConnected
  | 110 => .timedOut
  | 111 => .connectionRefused
  | 113 => .hostUnreachable
  | 115 => .inProgress
  | 116 => .staleNetworkFileHandle
  | 122 => .quotaExceeded
  | _ => .uncategorized

end IoKind

end SteadyFetch

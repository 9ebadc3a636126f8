import ReleasePacker.Path

/-!
# Failures of the operating system

An operation on files or processes fails either with an error number of the system or with a
kind of failure that may carry a text of its own.
-/

namespace ReleasePacker

/-- The kinds of failure that have no error number. -/
inductive IoErrorKind where
  | notFound
  | permissionDenied
  | brokenPipe
  | alreadyExists
  | invalidInput
  | invalidData
  | timedOut
  | writeZero
  | interrupted
  | unexpectedEof
  | storageFull
  | other
  deriving DecidableEq, Repr

/-- A failed operation on files or processes. -/
inductive IoError where
  /-- The system refused with an error number. -/
  | system (errno : Nat)
  /-- The operation failed in a known way, perhaps with a text that says more. -/
  | described (kind : IoErrorKind) (text : Option String)
  deriving DecidableEq, Repr

namespace IoErrorKind

/-- The text of a failure that says nothing more than its kind. -/
def message : IoErrorKind → String
  | notFound => "entity not found"
  | permissionDenied => "permission denied"
  | brokenPipe => "broken pipe"
  | alreadyExists => "entity already exists"
  | invalidInput => "invalid input parameter"
  | invalidData => "invalid data"
  | timedOut => "timed out"
  | writeZero => "write zero"
  | interrupted => "operation interrupted"
  | unexpectedEof => "unexpected end of file"
  | storageFull => "no storage space"
  | other => "other error"

end IoErrorKind

namespace IoError

/-- The system's texts by error number; an empty text marks a number that is not in use. -/
def systemTexts : List String :=
  ["Success", "Operation not permitted", "No such file or directory", "No such process",
    "Interrupted system call", "Input/output error", "No such device or address",
    "Argument list too long", "Exec format error", "Bad file descriptor", "No child processes",
    "Resource temporarily unavailable", "Cannot allocate memory", "Permission denied",
    "Bad address", "Block device required", "Device or resource busy", "File exists",
    "Invalid cross-device link", "No such device", "Not a directory", "Is a directory",
    "Invalid argument", "Too many open files in system", "Too many open files",
    "Inappropriate ioctl for device", "Text file busy", "File too large",
    "No space left on device", "Illegal seek", "Read-only file system", "Too many links",
    "Broken pipe", "Numerical argument out of domain", "Numerical result out of range",
    "Resource deadlock avoided", "File name too long", "No locks available",
    "Function not implemented", "Directory not empty", "Too many levels of symbolic links", "",
    "No message of desired type", "Identifier removed", "Channel number out of range",
    "Level 2 not synchronized", "Level 3 halted", "Level 3 reset", "Link number out of range",
    "Protocol driver not attached", "No CSI structure available", "Level 2 halted",
    "Invalid exchange", "Invalid request descriptor", "Exchange full", "No anode",
    "Invalid request code", "Invalid slot", "", "Bad font file format", "Device not a stream",
    "No data available", "Timer expired", "Out of streams resources",
    "Machine is not on the network", "Package not installed", "Object is remote",
    "Link has been severed", "Advertise error", "Srmount error", "Communication error on send",
    "Protocol error", "Multihop attempted", "RFS specific error", "Bad message",
    "Value too large for defined data type", "Name not unique on network",
    "File descriptor in bad state", "Remote address changed",
    "Can not access a needed shared library", "Accessing a corrupted shared library",
    ".lib section in a.out corrupted", "Attempting to link in too many shared libraries",
    "Cannot exec a shared library directly", "Invalid or incomplete multibyte or wide character",
    "Interrupted system call should be restarted", "Streams pipe error", "Too many users",
    "Socket operation on non-socket", "Destination address required", "Message too long",
    "Protocol wrong type for socket", "Protocol not available", "Protocol not supported",
    "Socket type not supported", "Operation not supported", "Protocol family not supported",
    "Address family not supported by protocol", "Address already in use",
    "Cannot assign requested address", "Network is down", "Network is unreachable",
    "Network dropped connection on reset", "Software caused connection abort",
    "Connection reset by peer", "No buffer space available",
    "Transport endpoint is already connected", "Transport endpoint is not connected",
    "Cannot send after transport endpoint shutdown", "Too many references: cannot splice",
    "Connection timed out", "Connection refused", "Host is down", "No route to host",
    "Operation already in progress", "Operation now in progress", "Stale file handle",
    "Structure needs cleaning", "Not a XENIX named type file", "No XENIX semaphores available",
    "Is a named type file", "Remote I/O error", "Disk quota exceeded", "No medium found",
    "Wrong medium type", "Operation canceled", "Required key not available", "Key has expired",
    "Key has been revoked", "Key was rejected by service", "Owner died", "State not recoverable",
    "Operation not possible due to RF-kill", "Memory page has hardware error"]

/-- The system's text for an error number. -/
def systemText (errno : Nat) : String :=
  match systemTexts[errno]? with
  | none | some "" => "Unknown error " ++ toString errno
  | some text => text

/-- The text shown for a failure. -/
def message : IoError → String
  | system errno => systemText errno ++ " (os error " ++ toString errno ++ ")"
  | described kind none => kind.message
  | described _ (some text) => text

/-- The error number of a failure that has one. -/
def errno? : IoError → Option Nat
  | system errno => some errno
  | described _ _ => none

/-- Nothing has the given name. -/
def noEntry : IoError := system 2
/-- The file may not be used in this way. -/
def accessDenied : IoError := system 13
/-- Something already has the given name. -/
def entryExists : IoError := system 17
/-- A step of the path, or the thing itself, is not a directory. -/
def notDirectory : IoError := system 20
/-- The thing is a directory. -/
def isDirectory : IoError := system 21
/-- A name or the whole path is too long. -/
def nameTooLong : IoError := system 36
/-- Following symbolic links does not end. -/
def linkLoop : IoError := system 40
/-- Paths given to the system hold no NUL character. -/
def nulInPath : IoError :=
  described .invalidInput (some "file name contained an unexpected NUL byte")

end IoError
end ReleasePacker

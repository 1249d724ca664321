/-!
# System errors

A failing call to the system carries either a number, whose text is the
platform's, or one of a fixed list of kinds, whose text is a short description,
or a text of its own beside a kind.
-/

namespace NetconfGate

/-- The kinds of failure that are told apart without a number. -/
inductive SystemError.Kind where
  | notFound
  | permissionDenied
  | connectionRefused
  | connectionReset
  | hostUnreachable
  | networkUnreachable
  | connectionAborted
  | notConnected
  | addressInUse
  | addressNotAvailable
  | networkDown
  | brokenPipe
  | alreadyExists
  | wouldBlock
  | notADirectory
  | isADirectory
  | directoryNotEmpty
  | readOnlyFilesystem
  | filesystemLoop
  | staleNetworkFileHandle
  | invalidInput
  | invalidData
  | timedOut
  | writeZero
  | storageFull
  | notSeekable
  | quotaExceeded
  | fileTooLarge
  | resourceBusy
  | executableFileBusy
  | deadlock
  | crossesDevices
  | tooManyLinks
  | invalidFilename
  | argumentListTooLong
  | interrupted
  | unsupported
  | unexpectedEof
  | outOfMemory
  | inProgress
  | other
  | uncategorized
deriving DecidableEq

inductive SystemError where
  | code (number : Int)
  | plain (kind : SystemError.Kind)
  | custom (kind : SystemError.Kind) (message : String)
deriving DecidableEq

namespace SystemError

def Kind.text : Kind → String
  | .notFound => "entity not found"
  | .permissionDenied => "permission denied"
  | .connectionRefused => "connection refused"
  | .connectionReset => "connection reset"
  | .hostUnreachable => "host unreachable"
  | .networkUnreachable => "network unreachable"
  | .connectionAborted => "connection aborted"
  | .notConnected => "not connected"
  | .addressInUse => "address in use"
  | .addressNotAvailable => "address not available"
  | .networkDown => "network down"
  | .brokenPipe => "broken pipe"
  | .alreadyExists => "entity already exists"
  | .wouldBlock => "operation would block"
  | .notADirectory => "not a directory"
  | .isADirectory => "is a directory"
  | .directoryNotEmpty => "directory not empty"
  | .readOnlyFilesystem => "read-only filesystem or storage medium"
  | .filesystemLoop => "filesystem loop or indirection limit (e.g. symlink loop)"
  | .staleNetworkFileHandle => "stale network file handle"
  | .invalidInput => "invalid input parameter"
  | .invalidData => "invalid data"
  | .timedOut => "timed out"
  | .writeZero => "write zero"
  | .storageFull => "no storage space"
  | .notSeekable => "seek on unseekable file"
  | .quotaExceeded => "quota exceeded"
  | .fileTooLarge => "file too large"
  | .resourceBusy => "resource busy"
  | .executableFileBusy => "executable file busy"
  | .deadlock => "deadlock"
  | .crossesDevices => "cross-device link or rename"
  | .tooManyLinks => "too many links"
  | .invalidFilename => "invalid filename"
  | .argumentListTooLong => "argument list too long"
  | .interrupted => "operation interrupted"
  | .unsupported => "unsupported"
  | .unexpectedEof => "unexpected end of file"
  | .outOfMemory => "out of memory"
  | .inProgress => "in progress"
  | .other => "other error"
  | .uncategorized => "uncategorized error"

/-- What the platform calls each error number, from 0 on. -/
def codeTexts : Array String := #[
  "Success", "Operation not permitted", "No such file or directory",
  "No such process", "Interrupted system call", "Input/output error",
  "No such device or address", "Argument list too long", "Exec format error",
  "Bad file descriptor", "No child processes", "Resource temporarily unavailable",
  "Cannot allocate memory", "Permission denied", "Bad address",
  "Block device required", "Device or resource busy", "File exists",
  "Invalid cross-device link", "No such device", "Not a directory",
  "Is a directory", "Invalid argument", "Too many open files in system",
  "Too many open files", "Inappropriate ioctl for device", "Text file busy",
  "File too large", "No space left on device", "Illegal seek",
  "Read-only file system", "Too many links", "Broken pipe",
  "Numerical argument out of domain", "Numerical result out of range", "Resource deadlock avoided",
  "File name too long", "No locks available", "Function not implemented",
  "Directory not empty", "Too many levels of symbolic links", "Unknown error 41",
  "No message of desired type", "Identifier removed", "Channel number out of range",
  "Level 2 not synchronized", "Level 3 halted", "Level 3 reset",
  "Link number out of range", "Protocol driver not attached", "No CSI structure available",
  "Level 2 halted", "Invalid exchange", "Invalid request descriptor",
  "Exchange full", "No anode", "Invalid request code",
  "Invalid slot", "Unknown error 58", "Bad font file format",
  "Device not a stream", "No data available", "Timer expired",
  "Out of streams resources", "Machine is not on the network", "Package not installed",
  "Object is remote", "Link has been severed", "Advertise error",
  "Srmount error", "Communication error on send", "Protocol error",
  "Multihop attempted", "RFS specific error", "Bad message",
  "Value too large for defined data type", "Name not unique on network", "File descriptor in bad state",
  "Remote address changed", "Can not access a needed shared library", "Accessing a corrupted shared library",
  ".lib section in a.out corrupted", "Attempting to link in too many shared libraries", "Cannot exec a shared library directly",
  "Invalid or incomplete multibyte or wide character", "Interrupted system call should be restarted", "Streams pipe error",
  "Too many users", "Socket operation on non-socket", "Destination address required",
  "Message too long", "Protocol wrong type for socket", "Protocol not available",
  "Protocol not supported", "Socket type not supported", "Operation not supported",
  "Protocol family not supported", "Address family not supported by protocol", "Address already in use",
  "Cannot assign requested address", "Network is down", "Network is unreachable",
  "Network dropped connection on reset", "Software caused connection abort", "Connection reset by peer",
  "No buffer space available", "Transport endpoint is already connected", "Transport endpoint is not connected",
  "Cannot send after transport endpoint shutdown", "Too many references: cannot splice", "Connection timed out",
  "Connection refused", "Host is down", "No route to host",
  "Operation already in progress", "Operation now in progress", "Stale file handle",
  "Structure needs cleaning", "Not a XENIX named type file", "No XENIX semaphores available",
  "Is a named type file", "Remote I/O error", "Disk quota exceeded",
  "No medium found", "Wrong medium type", "Operation canceled",
  "Required key not available", "Key has expired", "Key has been revoked",
  "Key was rejected by service", "Owner died", "State not recoverable",
  "Operation not possible due to RF-kill", "Memory page has hardware error"]

def codeText (number : Int) : String :=
  match number with
  | .ofNat n => codeTexts[n]?.getD ("Unknown error " ++ toString n)
  | .negSucc n => "Unknown error -" ++ toString (n + 1)

def message : SystemError → String
  | .code number => codeText number ++ " (os error " ++ toString number ++ ")"
  | .plain kind => kind.text
  | .custom _ message => message

def noEntry : SystemError := .code 2
def entryExists : SystemError := .code 17
def notDirectory : SystemError := .code 20
def isDirectory : SystemError := .code 21
def brokenPipe : SystemError := .code 32
def loopOfLinks : SystemError := .code 40
def addressInUse : SystemError := .code 98
def addressNotAvailable : SystemError := .code 99
def connectionReset : SystemError := .code 104
def connectionRefused : SystemError := .code 111

/-- A call that was interrupted may be made again. -/
def isInterrupted : SystemError → Bool
  | .code number => number = 4
  | .plain kind => kind = .interrupted
  | .custom kind _ => kind = .interrupted

/-- Another socket listens on the address. -/
def isAddressInUse : SystemError → Bool
  | .code number => number = 98
  | .plain kind => kind = .addressInUse
  | .custom kind _ => kind = .addressInUse

/-- Nothing is stored under the name. -/
def isNotFound : SystemError → Bool
  | .code number => number = 2
  | .plain kind => kind = .notFound
  | .custom kind _ => kind = .notFound

end SystemError

end NetconfGate

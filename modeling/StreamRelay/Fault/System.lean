import StreamRelay.Fault.Basic

/-!
# Faults of the operating system

The texts and the kinds under which Linux reports the error codes of its calls.
-/

namespace StreamRelay.SystemError

/-- The names of the error codes from 0 on; a code without a name has the empty text. -/
def names : List String := [
  "Success", "Operation not permitted", "No such file or directory", "No such process",
  "Interrupted system call", "Input/output error", "No such device or address",
  "Argument list too long", "Exec format error", "Bad file descriptor", "No child processes",
  "Resource temporarily unavailable", "Cannot allocate memory", "Permission denied", "Bad address",
  "Block device required", "Device or resource busy", "File exists", "Invalid cross-device link",
  "No such device", "Not a directory", "Is a directory", "Invalid argument",
  "Too many open files in system", "Too many open files", "Inappropriate ioctl for device",
  "Text file busy", "File too large", "No space left on device", "Illegal seek",
  "Read-only file system", "Too many links", "Broken pipe", "Numerical argument out of domain",
  "Numerical result out of range", "Resource deadlock avoided", "File name too long",
  "No locks available", "Function not implemented", "Directory not empty",
  "Too many levels of symbolic links", "", "No message of desired type", "Identifier removed",
  "Channel number out of range", "Level 2 not synchronized", "Level 3 halted", "Level 3 reset",
  "Link number out of range", "Protocol driver not attached", "No CSI structure available",
  "Level 2 halted", "Invalid exchange", "Invalid request descriptor", "Exchange full", "No anode",
  "Invalid request code", "Invalid slot", "", "Bad font file format", "Device not a stream",
  "No data available", "Timer expired", "Out of streams resources",
  "Machine is not on the network", "Package not installed", "Object is remote",
  "Link has been severed", "Advertise error", "Srmount error", "Communication error on send",
  "Protocol error", "Multihop attempted", "RFS specific error", "Bad message",
  "Value too large for defined data type", "Name not unique on network",
  "File descriptor in bad state", "Remote address changed",
  "Can not access a needed shared library", "Accessing a corrupted shared library",
  ".lib section in a.out corrupted", "Attempting to link in too many shared libraries",
  "Cannot exec a shared library directly", "Invalid or incomplete multibyte or wide character",
  "Interrupted system call should be restarted", "Streams pipe error", "Too many users",
  "Socket operation on non-socket", "Destination address required", "Message too long",
  "Protocol wrong type for socket", "Protocol not available", "Protocol not supported",
  "Socket type not supported", "Operation not supported", "Protocol family not supported",
  "Address family not supported by protocol", "Address already in use",
  "Cannot assign requested address", "Network is down", "Network is unreachable",
  "Network dropped connection on reset", "Software caused connection abort",
  "Connection reset by peer", "No buffer space available",
  "Transport endpoint is already connected", "Transport endpoint is not connected",
  "Cannot send after transport endpoint shutdown", "Too many references: cannot splice",
  "Connection timed out", "Connection refused", "Host is down", "No route to host",
  "Operation already in progress", "Operation now in progress", "Stale file handle",
  "Structure needs cleaning", "Not a XENIX named type file", "No XENIX semaphores available",
  "Is a named type file", "Remote I/O error", "Disk quota exceeded", "No medium found",
  "Wrong medium type", "Operation canceled", "Required key not available", "Key has expired",
  "Key has been revoked", "Key was rejected by service", "Owner died", "State not recoverable",
  "Operation not possible due to RF-kill", "Memory page has hardware error"]

/-- The number of a call that meets a path with a missing part. -/
def notFound : Int := 2

/-- The number of a call that meets a file where a directory has to be. -/
def notDirectory : Int := 20

/-- The number of a call that meets a directory where a file has to be. -/
def isDirectory : Int := 21

/-- The number of a write to a full device. -/
def noSpace : Int := 28

/-- The number of a call that meets a path, or a part of one, that is too long. -/
def nameTooLong : Int := 36

/-- The number of a write to a pipe that nobody reads. -/
def brokenPipe : Int := 32

/-- The number of a connect to a network that no route leads to. -/
def networkUnreachable : Int := 101

/-- The number of a connect to a port that nobody listens on. -/
def connectionRefused : Int := 111

/-- The name of an error code. -/
def name (code : Int) : String :=
  match names[code.toNat]? with
  | some text => if code < 0 || text.isEmpty then s!"Unknown error {code}" else text
  | none => s!"Unknown error {code}"

/-- The text that an error code is reported with. -/
def text (code : Int) : String := s!"{name code} (os error {code})"

/-- The kinds of faults that are told apart. -/
inductive Kind where
  /-- Nobody takes what is written. -/
  | brokenPipe
  | other
deriving DecidableEq, Repr

/-- The kind of an error code. -/
def kind (code : Int) : Kind := if code = brokenPipe then .brokenPipe else .other

end StreamRelay.SystemError

namespace StreamRelay

/-- The fault of a call that the operating system refused with an error code. -/
def Fault.ofSystem (code : Int) : Fault := .plain (SystemError.text code)

end StreamRelay

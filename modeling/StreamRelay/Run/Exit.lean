/-!
# Exits

The ways in which a run ends, and the exit code that the command line makes of them.
-/

namespace StreamRelay

/-- How a run ended. -/
inductive Exit where
  /-- The server sent all of the body. -/
  | ended
  /-- The run was told to stop. -/
  | stopped
  /-- A write to the conduit failed while the run was going on. -/
  | readerGone
  /-- The server answered with a status other than 200. -/
  | httpStatus (status : UInt16)
  /-- The name of the host has no address. -/
  | dnsFailure
  /-- There was no connection, though the host has an address. -/
  | connectionFailed
  /-- The request failed apart from connecting, or the body broke off. -/
  | requestFailed
  /-- The run failed by itself. -/
  | unexpected
deriving DecidableEq, Repr

namespace Exit

/-- The name of an exit. -/
def name : Exit → String
  | ended => "Ended"
  | stopped => "Stopped"
  | readerGone => "ReaderGone"
  | httpStatus status => s!"HttpStatus({status})"
  | dnsFailure => "DnsFailure"
  | connectionFailed => "ConnectionFailed"
  | requestFailed => "RequestFailed"
  | unexpected => "Unexpected"

/-- The exit code for a host name without an address. -/
def dnsFailureCode : UInt8 := 2

/-- The exit code of a relay whose run ended in this way, or has no recorded end. -/
def code : Option Exit → UInt8
  | some ended | some stopped => 0
  | some dnsFailure => dnsFailureCode
  | _ => 1

end Exit

end StreamRelay

import StreamRelay.Bytes
import StreamRelay.Run.Failure

/-!
# What the transport does

What a worker gets to see of the network: an answer to its request, and then the events of a body.
-/

namespace StreamRelay

/-- The answer to a request. -/
inductive Reply where
  /-- The server answered with this status. -/
  | answered (status : UInt16)
  /-- There is no answer. -/
  | failed (e : ClientError)

/-- An error that breaks off a body. The client has been connected by then, and is not asked to
connect again, so that the error is none of connecting. -/
structure BodyError extends ClientError where
  connected : isConnect = false

/-- The next that is received of a body. -/
inductive BodyEvent where
  | chunk (bytes : Bytes)
  /-- The body broke off. -/
  | broken (e : BodyError)
  /-- The body is complete. -/
  | finished

/-- What the transport of one run does, in order. Where a script ends, nothing more is heard. -/
structure Script where
  /-- How often a name is looked up, with success, before the answer: that of the host, and those of
  other hosts that it sends the client on to. -/
  lookups : Nat := 0
  reply : Option Reply := none
  body : List BodyEvent := []

end StreamRelay

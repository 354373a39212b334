import StreamRelay.Fault.System
import StreamRelay.Resolution.Lookup
import StreamRelay.Run.Transport
import StreamRelay.Url.Parser

/-!
# Requests on a network

How the request for a URL fares on a network: which name is looked up, which address is connected
to, and which chain of causes a failure brings with it. A server that the client has connected to may
do whatever it likes: answer or fall silent, break off, or send the client on to other hosts, with
whatever comes of that.
-/

namespace StreamRelay

/-- A network, as a host sees it. -/
structure Network where
  /-- The addresses of a name, or why it has none. -/
  lookup : String → Except String (List Address)
  /-- What comes of connecting to a port at one of these addresses: a fault, or all that the
  transport does from then on. -/
  connect : List Address → UInt16 → Except Fault Script

/-- The network of a host from which no route leads anywhere. -/
def Network.isolated : Network where
  lookup := Resolution.lookup
  connect := fun _ _ => .error (.ofSystem SystemError.networkUnreachable)

namespace Url

/-- Whether a text is the encoded form of a text. -/
def isText (cs : List Char) : Bool := (Percent.decodeText? cs).isSome

/-- The URL that a request is sent to. Credentials go into a header field, unless they are no text.
-/
def requested (u : Url) : Url :=
  if isText u.user && (!u.user.isEmpty || (!u.password.isEmpty && isText u.password)) then
    { u with user := [], password := [] }
  else u

/-- The greatest length of a URL that a request can be sent to. -/
def maxLength : Nat := 65534

/-- Whether a request can be sent to a URL. -/
def isRequestable (u : Url) : Bool :=
  [['h', 't', 't', 'p'], ['h', 't', 't', 'p', 's']].contains u.scheme &&
    (match u.host with
      | some h => !h.text.any (fun c => "\"`\x7b\x7d".toList.contains c)
      | none => false) &&
    u.chars.length ≤ maxLength

/-- The port that a request is sent to. -/
def targetPort (u : Url) : UInt16 := (u.port <|> usualPort u.scheme).getD 80

end Url

namespace Script

/-- The chain of causes of a request that got no connection. -/
def unconnectedBecause (url : Url) (faults : List Fault) : Trouble :=
  .ofFaults ([.plain s!"error sending request for url ({url.text})",
    .plain "client error (Connect)"] ++ faults)

/-- A script in which there is no connection. -/
def unconnected (lookups : Nat) (url : Url) (faults : List Fault) : Script :=
  { lookups, reply := some (.failed ⟨true, unconnectedBecause url faults⟩) }

/-- A script in which no request can be made of the URL. -/
def unbuilt : Script := { reply := some (.failed ⟨false, .ofFaults [.plain "builder error"]⟩) }

/-- A script that follows the outcome of connecting, after some names have been looked up. -/
def ofConnect (lookups : Nat) (url : Url) : Except Fault Script → Script
  | .ok script => { script with lookups := lookups + script.lookups }
  | .error fault => unconnected lookups url [.plain "tcp connect error", fault]

/-- What the transport does about the request for a URL. -/
def ofUrl (net : Network) (u : Url) : Script :=
  let url := u.requested
  if !u.isRequestable then unbuilt
  else match u.host with
    | some (.address a) => ofConnect 0 url (net.connect [a] u.targetPort)
    | some (.name name) | some (.other name) =>
      let host := String.ofList name
      match net.lookup host with
      | .ok addresses => ofConnect 1 url (net.connect addresses u.targetPort)
      | .error reason =>
        unconnected 0 url
          ([.plain "dns error", .plain "error resolving DNS"] ++ Fault.ofLookup host reason)
    | none => unbuilt

/-- What the transport does about the request that a task makes; there is none without a URL. -/
def ofTask (net : Network) (url : String) : Script :=
  ((Url.parse? url).map (ofUrl net)).getD {}

end Script

end StreamRelay

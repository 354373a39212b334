import StreamRelay.Fault.Trail

/-!
# Failures of a run

The ways in which a run fails before or apart from relaying, with their texts and their trails of
causes. An error of the client that sends the request is sorted by whether the client was connecting
when it occurred.
-/

namespace StreamRelay

/-- An error of the client that sends a request. -/
structure ClientError where
  /-- Whether it occurred while the client was connecting. -/
  isConnect : Bool
  cause : Trouble

/-- Why a worker could not be set up. -/
inductive SetupFault where
  /-- There is no runtime to work in. -/
  | runtime (cause : String)
  /-- There is no client to send the request. -/
  | client (cause : Trouble)

/-- Why a run failed. -/
inductive Failure where
  /-- The address of the stream is no URL. -/
  | invalidUrl (url : String)
  /-- The client that sends the request could not be set up. -/
  | client (cause : Trouble)
  /-- There is no connection to the host of the URL. -/
  | connect (url : String) (cause : Trouble)
  /-- The request failed after or apart from connecting. -/
  | request (url : String) (cause : Trouble)
  /-- The answer has a status other than 200. -/
  | httpStatus (url : String) (status : UInt16)
  /-- The surroundings of a run could not be set up. -/
  | runtime (cause : String)

namespace Failure

/-- Sorts an error of the client, which is one of connecting or one of the request. -/
def ofClient (url : String) (e : ClientError) : Failure :=
  if e.isConnect then .connect url e.cause else .request url e.cause

/-- What a worker reports that could not be set up. -/
def ofSetup : SetupFault → Failure
  | .runtime cause => .runtime cause
  | .client cause => .client cause

/-- The text of the fault that a chain of causes starts with. -/
def firstText (t : Trouble) : String := (t.causes.fault t.first).text

/-- What a failure says on its own. -/
def text : Failure → String
  | invalidUrl url => s!"invalid URL: {url}"
  | client cause => s!"failed to build HTTP client: {firstText cause}"
  | connect url cause => s!"connection to {url} failed: {firstText cause}"
  | request url cause => s!"request to {url} failed: {firstText cause}"
  | httpStatus url status => s!"HTTP {status} from {url}"
  | runtime cause => s!"failed to start worker runtime: {cause}"

/-- The failure and its causes, as a walk visits them. -/
def trail (f : Failure) : List Fault :=
  match f with
  | client cause | connect _ cause | request _ cause => cause.trailBehind (.plain f.text)
  | runtime cause => [.plain f.text, .plain cause]
  | invalidUrl _ | httpStatus _ _ => [.plain f.text]

variable {e : ClientError}

/-- An error that occurred while the client was connecting is one of connecting. -/
theorem ofClient_of_isConnect (url : String) (connecting : e.isConnect = true) :
    ofClient url e = .connect url e.cause := by
  rw [ofClient, if_pos connecting]

/-- An error of a client that was not connecting is one of the request. -/
theorem ofClient_of_connected (url : String) (connected : e.isConnect = false) :
    ofClient url e = .request url e.cause := by
  rw [ofClient, connected]
  rfl

end Failure

end StreamRelay

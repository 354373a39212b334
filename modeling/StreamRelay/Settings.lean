import StreamRelay.Header.Block

/-!
# Settings

The settings of a pump, their ranges, and the header fields that they ask for.
-/

namespace StreamRelay

/-- The name of this program and its version. -/
def programVersion : String := "0.1.0"

/-- The user agent of requests that have none in their settings. -/
def defaultUserAgent : String := s!"stream-pump/{programVersion}"

/-- The name of the thread that a run works on. -/
def workerName : String := "stream-pump"

/-- The settings of a pump. -/
structure Settings where
  userAgent : Option String := none
  headers : List Header.Field := []
  /-- The greatest number of bytes that are written at once. -/
  chunkSize : Nat := 8192
  /-- The seconds after which connecting is given up. -/
  connectTimeout : Nat := 5
  /-- The seconds without a byte after which a body is given up. -/
  readTimeout : Nat := 30
  /-- The milliseconds that a stop waits for the run to end. -/
  stopWait : Nat := 2000
deriving DecidableEq, Repr

namespace Settings

/-- The greatest chunk size. -/
def maxChunkSize : Nat := 16 * 1024 * 1024

/-- The least number of seconds of a timeout. -/
def minTimeout : Nat := 1

/-- The greatest number of seconds of a timeout. -/
def maxTimeout : Nat := 3600

/-- The two timeouts. -/
inductive Timeout where
  | connect
  | read
deriving DecidableEq, Repr

/-- The name of a timeout. -/
def Timeout.name : Timeout → String
  | connect => "connect_timeout"
  | read => "read_timeout"

/-- Why settings are refused. -/
inductive Invalid where
  /-- The chunk size is out of its range. -/
  | chunkSize (value : Nat)
  /-- A timeout is out of its range. -/
  | timeout (which : Timeout) (seconds : Nat)
  /-- A header field is not valid. -/
  | header (name : String)
deriving DecidableEq, Repr

/-- The text of a refusal. -/
def Invalid.text : Invalid → String
  | chunkSize value => s!"invalid chunk size {value}: expected 1..={maxChunkSize}"
  | timeout which seconds =>
    s!"invalid {which.name}: {seconds}s, expected {minTimeout}..={maxTimeout} seconds"
  | header name => s!"invalid header `{name}`"

/-- The name of the field that holds the user agent. -/
def userAgentName : String := "user-agent"

/-- The block of the given fields, added to those of `b`, unless one of them is not valid. -/
def addFields (b : Header.Block) : List Header.Field → Except Invalid Header.Block
  | [] => .ok b
  | f :: fs => if f.isValid then addFields (b.add f) fs else .error (.header f.name)

/-- The header fields that the settings ask for. A user agent takes the place of those given as
header fields. -/
def requestHeaders (s : Settings) : Except Invalid Header.Block := do
  let b ← addFields [] s.headers
  match s.userAgent with
  | none => return b
  | some agent =>
    if Header.isValue agent then return b.put userAgentName agent
    else throw (.header userAgentName)

/-- Checks a timeout. -/
def checkTimeout (which : Timeout) (seconds : Nat) : Except Invalid Unit :=
  if minTimeout ≤ seconds ∧ seconds ≤ maxTimeout then .ok () else .error (.timeout which seconds)

/-- Checks the chunk size. -/
def checkChunkSize (size : Nat) : Except Invalid Unit :=
  if 1 ≤ size ∧ size ≤ maxChunkSize then .ok () else .error (.chunkSize size)

/-- Checks settings: first the chunk size, then the timeouts, then the header fields. -/
def validate (s : Settings) : Except Invalid Unit := do
  checkChunkSize s.chunkSize
  checkTimeout .connect s.connectTimeout
  checkTimeout .read s.readTimeout
  let _ ← s.requestHeaders

/-- One change of settings. -/
inductive Change where
  | userAgent (agent : String)
  | header (field : Header.Field)
  | chunkSize (bytes : Nat)
  | connectTimeout (seconds : Nat)
  | readTimeout (seconds : Nat)
  | stopWait (millis : Nat)
deriving DecidableEq, Repr

/-- Changes settings. A header field is added, and everything else replaces what was there. -/
def apply (s : Settings) : Change → Settings
  | .userAgent agent => { s with userAgent := some agent }
  | .header field => { s with headers := s.headers ++ [field] }
  | .chunkSize bytes => { s with chunkSize := bytes }
  | .connectTimeout seconds => { s with connectTimeout := seconds }
  | .readTimeout seconds => { s with readTimeout := seconds }
  | .stopWait millis => { s with stopWait := millis }

/-- The settings that a list of changes makes of the default ones. -/
def ofChanges (changes : List Change) : Settings := changes.foldl apply {}

end Settings

end StreamRelay

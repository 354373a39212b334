import StreamRelay.CommandLine.Arguments
import StreamRelay.Program.Result
import StreamRelay.Pump.Session

/-!
# Relaying

How a stream is relayed to a file or to the output: the settings are checked, the sink is opened,
the pump is started, the stream is copied to its end, and the pump is stopped. The exit code tells
how the run ended.
-/

namespace StreamRelay

/-- Where a stream is relayed to. -/
inductive Sink where
  | stdout
  | file (place : List String)
deriving DecidableEq, Repr

namespace Relay

/-- Opens the sink that the arguments ask for. -/
def openSink (a : Arguments) (files : Files) : Except ProgramFault (Files × Sink) :=
  match a.output with
  | none => .ok (files, .stdout)
  | some path =>
    match files.create path with
    | .ok (files, place) => .ok (files, .file place)
    | .error code => .error (.output path code)

/-- Writes a stream to a sink. -/
def deliver (files : Files) (sink : Sink) (bytes : Bytes) : Except Int (Files × Bytes) :=
  match sink with
  | .stdout => .ok (files, bytes)
  | .file place => (files.append place bytes).map (fun files => (files, []))

/-- Whether the stream that the caller reads has come to its end. -/
def atEnd (s : Session) : Bool := (s.pipe?.map (fun p => p.closed && p.pending.isEmpty)).getD true

/-- A stream that has been copied: the pump that it came from, what was written and how many bytes
that is, and the error code of a write that failed. -/
structure Copy where
  session : Session
  files : Files
  stdout : Bytes := []
  copied : UInt64 := 0
  failure : Option Int := none

/-- Copies the stream to the sink until its end. A copy that fails lets the read end go. -/
def copy (files : Files) (sink : Sink) (s : Session) : Copy :=
  let (bytes, session) := s.readAll
  match deliver files sink bytes with
  | .ok (files, stdout) => { session, files, stdout, copied := bytes.length.toUInt64 }
  | .error code => { session := session.dropReader.2, files, failure := some code }

/-- The copy with its pump stopped. -/
def Copy.stop (c : Copy) : Copy := { c with session := c.session.stop }

/-- What is left behind after a copy. The exit code is that of the last run, unless a write failed.
-/
def Copy.result (c : Copy) : Result :=
  match c.failure with
  | none =>
    { code := Exit.code c.session.control.status.exit, stdout := c.stdout, files := c.files }
  | some code => .failed c.files (.sink code) []

/-- Whether a copy came to its end, or failed. -/
def Copy.isDone (c : Copy) : Bool := c.failure.isSome || atEnd c.session

/-- Checks the settings, opens the sink and starts the pump. -/
def begin (a : Arguments) (url : String) (w : Surroundings) :
    Except Result (Session × Files × Sink) :=
  match Pump.withSettings url a.settings with
  | .error invalid => .error (.failed w.files (.settings invalid) [])
  | .ok pump =>
    match openSink a w.files with
    | .error fault => .error (.failed w.files fault [])
    | .ok (files, sink) =>
      match Session.start w.network { pump } with
      | .error fault => .error (.failed files (.start fault) [])
      | .ok s => .ok (s, files, sink)

/-- Lets the run go on for as long as it can. A user who interrupts stops it if it has not ended
then. -/
def await (interrupts : Bool) (s : Session) : Session :=
  let s := s.settle
  if interrupts && !atEnd s then s.stop else s

/-- Relays a stream. There is no result when the stream does not end and nobody interrupts. -/
def run (a : Arguments) (url : String) (w : Surroundings) : Option Result :=
  match begin a url w with
  | .error result => some result
  | .ok (s, files, sink) =>
    let c := copy files sink (await w.interrupts s)
    if c.isDone then some c.stop.result else none

end Relay

end StreamRelay

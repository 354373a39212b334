import StreamRelay.Network
import StreamRelay.Pump.Basic
import StreamRelay.Run.Drive

/-!
# A pump with one caller

One caller uses a pump step by step, and holds the read end of the latest run. Workers get to work
while the caller waits, and then go on for as long as they can.
-/

namespace StreamRelay

/-- A pump, its only caller, and what the transport has in store for each run. -/
structure Session where
  pump : Pump
  control : Control := {}
  scripts : List Script := []
  /-- The run whose read end the caller holds. -/
  reader : Option Nat := none

namespace Session

/-- Lets the worker of the run with this number go on for as long as it can. -/
def runOne (s : Session) (i : Nat) : Session :=
  match s.control.runs[i]?, s.scripts[i]? with
  | some r, some script =>
    let (r, script) := r.finish s.pump.task script
    { s with
      control := { s.control with runs := s.control.runs.set i r }
      scripts := s.scripts.set i script }
  | _, _ => s

/-- Lets all workers go on for as long as they can. -/
def settle (s : Session) : Session := (List.range s.control.runs.length).foldl runOne s

/-- Starts the pump on a network. -/
def start (net : Network) (s : Session) : Except StartFault Session :=
  match s.control.start s.pump with
  | some (.error fault) => .error fault
  | none => .ok s
  | some (.ok control) =>
    .ok { s with
      control
      scripts := s.scripts ++ [Script.ofTask net s.pump.url]
      reader := control.latest }

/-- Makes the next step of the call with this number, if there is one. -/
def advance (i : Nat) (s : Session) : Session :=
  match s.control.advance i with
  | some control => { s with control }
  | none => s

/-- Ends the wait of the call with this number, if it waits. -/
def expire (i : Nat) (s : Session) : Session :=
  match s.control.expire s.pump i with
  | some control => { s with control }
  | none => s

/-- Lets the call with this number wait for its worker, if it has come to that. A wait of no length
lets no worker go on. -/
def await (i : Nat) (s : Session) : Session :=
  match s.control.calls[i]? with
  | none => s
  | some call =>
    if call.stage = .waiting then
      let s := if s.pump.settings.stopWait = 0 then s else s.settle
      (s.advance i).expire i
    else s

/-- Stops the pump: the steps of one call, and what the worker does while the call waits. -/
def stop (s : Session) : Session :=
  match s.control.stop with
  | none => s
  | some control =>
    let i := s.control.calls.length
    ({ s with control } : Session).advance i |>.advance i |>.advance i |>.await i

/-- Drops the pump. -/
def drop (s : Session) : Bool × Session :=
  match s.control.drop with
  | none => (false, s)
  | some control =>
    let i := s.control.calls.length
    (true, ({ s with control } : Session).advance i |>.advance i)

/-- Changes the conduit whose read end the caller holds. -/
def withPipe (s : Session) (f : Pipe → Pipe) : Session :=
  match s.reader with
  | none => s
  | some i =>
    { s with control := { s.control with
        runs := s.control.runs.modify i (fun r => { r with pipe := f r.pipe }) } }

/-- The conduit whose read end the caller holds. -/
def pipe? (s : Session) : Option Pipe := do
  let i ← s.reader
  let r ← s.control.runs[i]?
  return r.pipe

/-- Reads, after a wait, at most `n` bytes. -/
def read (n : Nat) (s : Session) : Bytes × Session :=
  let s := s.settle
  match s.pipe? with
  | none => ([], s)
  | some p => ((p.read n).1, s.withPipe (fun p => (p.read n).2))

/-- Reads, after a wait, all that is there. -/
def readAll (s : Session) : Bytes × Session :=
  let s := s.settle
  match s.pipe? with
  | none => ([], s)
  | some p => (p.readAll.1, s.withPipe (fun p => p.readAll.2))

/-- Lets the read end go, and tells whether the caller held it. -/
def dropReader (s : Session) : Bool × Session :=
  (s.reader.isSome, { s.withPipe (fun p => p.dropReader.2) with reader := none })

/-- What the workers told, run after run. -/
def workerJournal (s : Session) : Journal := s.control.runs.flatMap (·.journal)

end Session

end StreamRelay

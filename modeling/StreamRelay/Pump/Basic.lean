import StreamRelay.Run.Machine
import StreamRelay.Settings

/-!
# Pumps

A pump has a URL and settings, and the runs that were started on it. Callers may start and stop it
at the same time; each step of theirs below is one that no other step can come between.

A start takes effect at once, and waits for nobody. A stop takes the handles of the latest run at
once, and then clears the running flag, gives the stop signal, tries to close the write end and waits
for the worker, one after the other. Where the handles are gone already it ends after the signal.

Who gives up the handles of a worker that is done joins its thread, and tells if that has ended with
a panic. A thread may end a little later than its worker is done, and is then not joined, so that
nobody can rely on being told.
-/

namespace StreamRelay

/-- A pump as it was made. -/
structure Pump where
  url : String
  settings : Settings
  headers : Header.Block
deriving DecidableEq, Repr

namespace Pump

/-- A pump with default settings. -/
def new (url : String) : Pump := ⟨url, {}, []⟩

/-- A pump with the given settings, if they are valid. -/
def withSettings (url : String) (settings : Settings) : Except Settings.Invalid Pump := do
  settings.validate
  return ⟨url, settings, ← settings.requestHeaders⟩

/-- What a run of a pump is to do. -/
def task (p : Pump) : Task := ⟨p.url, p.settings.chunkSize⟩

end Pump

/-- Why a pump was not started. -/
inductive StartFault where
  /-- The latest run is still going on. -/
  | alreadyRunning (url : String)
  /-- There is no conduit. -/
  | conduit (cause : String)
  /-- There is no thread to work on. -/
  | spawn (cause : String)
deriving DecidableEq, Repr

namespace StartFault

/-- What a refused start says. -/
def text : StartFault → String
  | alreadyRunning url => s!"stream pump for {url} is already running"
  | conduit cause => s!"failed to create conduit: {cause}"
  | spawn cause => s!"failed to spawn stream pump worker: {cause}"

/-- A refused start and its causes. -/
def trail (f : StartFault) : List Fault :=
  match f with
  | alreadyRunning _ => [.plain f.text]
  | conduit cause | spawn cause => [.plain f.text, .plain cause]

end StartFault

/-- How far a call that stops a pump has come. -/
inductive Stage where
  | clearing
  | notifying
  | closing
  | waiting
  | returned
deriving DecidableEq, Repr

/-- A call that stops a pump, or drops it. -/
structure Call where
  /-- The run that was the latest when the call began, if there was one. -/
  target : Option Nat
  /-- Whether the call took the handles of that run. -/
  holdsHandles : Bool
  /-- Whether the pump is dropped; then nothing is told and nothing waited for. -/
  drops : Bool
  stage : Stage := .clearing
deriving DecidableEq, Repr

/-- A pump at work: its runs, and the calls that stop it. -/
structure Control where
  /-- The runs, the latest last. -/
  runs : List Run := []
  /-- The status that a pump has before its first run. -/
  idle : Status := .idle
  /-- Whether the handles of the latest run are there for a call to take. -/
  hasHandles : Bool := false
  calls : List Call := []
  dropped : Bool := false
  /-- What callers are told, in the order in which it happens. -/
  journal : Journal := []

/-- One step at a pump. -/
inductive Action where
  /-- A caller starts the pump. -/
  | start
  /-- A caller starts the pump, and there is no conduit or no thread for the run. -/
  | startInVain
  /-- A caller who is about to start the pump joins the thread of the latest run, which has ended
  with this panic. -/
  | reap (panic : String)
  /-- A caller begins to stop the pump. -/
  | stop
  /-- The owner begins to drop the pump. -/
  | drop
  /-- The call with this number makes its next step. -/
  | advance (call : Nat)
  /-- The call with this number joins the thread that it has waited for, which has ended with this
  panic. -/
  | join (call : Nat) (panic : String)
  /-- The call with this number has waited for as long as it may. -/
  | expire (call : Nat)
  /-- The worker, the transport or the reader of the run with this number makes a move. -/
  | within (run : Nat) (m : Move)

/-- Whether a move of a run is made by one who stops it. -/
def Move.isRequest : Move → Bool
  | .clear | .notify | .tryClose => true
  | _ => false

namespace Control

/-- The number of the latest run. -/
def latest (c : Control) : Option Nat := if c.runs.isEmpty then none else some (c.runs.length - 1)

/-- The status that a target has. -/
def statusOf (c : Control) : Option Nat → Status
  | none => c.idle
  | some i => (c.runs[i]?.map Run.status).getD c.idle

/-- The status of the latest run. -/
def status (c : Control) : Status := c.statusOf c.latest

/-- Changes the status of a target. -/
def changeStatus (c : Control) (target : Option Nat) (f : Status → Status) : Control :=
  match target with
  | none => { c with idle := f c.idle }
  | some i => { c with runs := c.runs.modify i (fun r => { r with status := f r.status }) }

/-- Adds an entry to what callers are told. -/
def log (c : Control) (e : Event) : Control := { c with journal := c.journal ++ [e] }

/-- Whether the worker of a target is done. -/
def isOver (c : Control) (target : Option Nat) : Bool :=
  match target with
  | none => true
  | some i => (c.runs[i]?.map (·.phase.isOver)).getD true

/-- Whether the worker of a target is done and has panicked. -/
def hasFallen (c : Control) (target : Option Nat) : Bool :=
  match target with
  | none => false
  | some i =>
    (c.runs[i]?.map (fun r => r.phase.isOver && r.journal.contains .panicked)).getD false

/-- Starts a run, unless the running flag of the latest one is set. The handles of an earlier run
that are still there are given up, be its worker done or not. -/
def start (p : Pump) (c : Control) : Option (Except StartFault Control) :=
  if c.dropped then none
  else if c.status.running then some (.error (.alreadyRunning p.url))
  else some (.ok ({ c with runs := c.runs ++ [Run.fresh], hasHandles := true }.log .started))

/-- Begins to start a run, and gets neither a conduit nor a thread for it. The handles of the run
before are given up all the same. -/
def startInVain (c : Control) : Option Control :=
  if c.dropped || c.status.running then none else some { c with hasHandles := false }

/-- Begins to start a run, gives up the handles of the run before, and finds that its thread has ended
with a panic. The start goes on from there like one that finds no handles. -/
def reap (c : Control) (panic : String) : Option Control :=
  if c.dropped || c.status.running || !c.hasHandles || !c.hasFallen c.latest then none
  else some ({ c with hasHandles := false }.log (.joinedPanicked panic))

/-- Begins to stop the latest run. -/
def stop (c : Control) : Option Control :=
  if c.dropped then none
  else some { c with
    hasHandles := false
    calls := c.calls ++ [{ target := c.latest, holdsHandles := c.hasHandles, drops := false }] }

/-- Begins to drop the pump. Nobody else uses it then. -/
def drop (c : Control) : Option Control :=
  if c.dropped || c.calls.any (fun k => k.stage != .returned) then none
  else
    let stage := if c.status.running then .clearing else .returned
    some { c with
      dropped := true
      hasHandles := false
      calls := c.calls ++ [{ target := c.latest, holdsHandles := false, drops := true, stage }] }

/-- Moves a call on to a stage. -/
def setStage (c : Control) (i : Nat) (s : Stage) : Control :=
  { c with calls := c.calls.modify i (fun k => { k with stage := s }) }

/-- Closes the write end of a target, unless a write holds it, and tells so. -/
def closeWriteEnd (c : Control) (target : Option Nat) : Control :=
  match target with
  | none => c
  | some i =>
    match c.runs[i]? with
    | none => c
    | some r =>
      let (result, pipe) := r.pipe.tryClose r.phase.holdsWriteEnd
      let c := { c with runs := c.runs.set i { r with pipe } }
      match result with
      | some true => c.log .conduitClosed
      | some false => c
      | none => c.log .closeLeftToWorker

/-- The next step of a call. -/
def advance (c : Control) (i : Nat) : Option Control := do
  let k ← c.calls[i]?
  match k.stage with
  | .clearing => return (c.changeStatus k.target Status.markStopped).setStage i .notifying
  | .notifying =>
    let c := c.changeStatus k.target Status.notify
    if k.drops then return c.setStage i .returned
    else if k.holdsHandles then return (c.log .stopping).setStage i .closing
    else return (c.log .nothingToStop).setStage i .returned
  | .closing => return (c.closeWriteEnd k.target).setStage i .waiting
  | .waiting => if c.isOver k.target then return c.setStage i .returned else none
  | .returned => none

/-- A call has waited for its worker, and finds that the thread has ended with a panic. -/
def join (c : Control) (i : Nat) (panic : String) : Option Control := do
  let k ← c.calls[i]?
  if k.stage = .waiting && c.hasFallen k.target then
    return (c.log (.joinedPanicked panic)).setStage i .returned
  else none

/-- A call gives up waiting. -/
def expire (p : Pump) (c : Control) (i : Nat) : Option Control := do
  let k ← c.calls[i]?
  if k.stage = .waiting then return (c.log (.detached p.settings.stopWait)).setStage i .returned
  else none

/-- A move of a run that nobody who stops it makes. -/
def within (p : Pump) (c : Control) (i : Nat) (m : Move) : Option Control := do
  if m.isRequest then none
  else
    let r ← c.runs[i]?
    let r' ← r.step p.task m
    return { c with runs := c.runs.set i r' }

/-- The pump after a step, if the step can be made. A refused start changes nothing. -/
def step (p : Pump) (c : Control) : Action → Option Control
  | .start => (c.start p).map (fun
    | .ok c' => c'
    | .error _ => c)
  | .startInVain => c.startInVain
  | .reap panic => c.reap panic
  | .stop => c.stop
  | .drop => c.drop
  | .advance i => c.advance i
  | .join i panic => c.join i panic
  | .expire i => c.expire p i
  | .within i m => c.within p i m

/-- The pump after a list of steps, if each of them can be made. -/
def steps (p : Pump) (c : Control) : List Action → Option Control
  | [] => some c
  | a :: as => (c.step p a).bind (fun c' => steps p c' as)

end Control

end StreamRelay

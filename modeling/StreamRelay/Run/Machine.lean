import StreamRelay.Pipe
import StreamRelay.Run.Forward
import StreamRelay.Run.Outcome
import StreamRelay.Run.Transport
import StreamRelay.Url.Parser

/-!
# The steps of a run

A run is a worker that asks for a stream and forwards its body into a conduit, while others tell it
to stop or read from the conduit. Each move below is one step that no other step can come between,
so that every order in which the parties can act is a sequence of moves.

The worker looks for the stop signal before it looks at the transport, both when it waits for the
answer and when it waits for the body, and it looks at the running flag before it waits for the body
and before each piece. While it writes a piece it holds the write end. It sets the mark that its
result calls for, tells the result and records the exit one after the other, and a panic can come in
between.
-/

namespace StreamRelay

/-- What a run is to do. -/
structure Task where
  url : String
  chunkSize : Nat
deriving DecidableEq, Repr

/-- What a worker waits for. -/
inductive Wait where
  | reply
  | body
deriving DecidableEq, Repr

/-- How far a worker has come. -/
inductive Phase where
  /-- The URL is about to be read. -/
  | preparing
  /-- The stop signal is about to be looked at. -/
  | asking (w : Wait)
  /-- The transport is about to be looked at. -/
  | awaiting (w : Wait)
  /-- The running flag is about to be looked at before the wait for the body. -/
  | betweenChunks
  /-- The running flag is about to be looked at before the next of these pieces. -/
  | forwarding (pieces : List Bytes)
  /-- The write end is about to be taken hold of, to write a piece. -/
  | entering (piece : Bytes) (rest : List Bytes)
  /-- The write end is held, and `left` of a piece is still to be written. -/
  | writing (piece left : Bytes) (rest : List Bytes)
  /-- A piece was written, or its write failed. -/
  | written (piece : Bytes) (failure : Option WriteFault) (rest : List Bytes)
  /-- The mark that the result calls for is about to be set. -/
  | concluding (o : Outcome)
  /-- The result is about to be told. -/
  | telling (o : Outcome)
  /-- The exit is about to be recorded. -/
  | recording (e : Exit)
  /-- A panic is about to be told. -/
  | unwinding
  /-- The running flag is about to be cleared. -/
  | settling
  /-- The write end is about to be closed. -/
  | closing
  /-- The worker is done. -/
  | over

/-- Whether a worker holds the write end. -/
def Phase.holdsWriteEnd : Phase → Bool
  | .writing _ _ _ => true
  | _ => false

/-- Whether a worker is done. -/
def Phase.isOver : Phase → Bool
  | .over => true
  | _ => false

/-- Whether a worker has still to leave its work, so that a panic can come upon it. -/
def Phase.isAtWork : Phase → Bool
  | .unwinding | .settling | .closing | .over => false
  | _ => true

/-- One step of a run. -/
inductive Move where
  /-- The worker does what is next by itself. -/
  | work
  /-- The worker turns out not to be set up. -/
  | giveUp (f : SetupFault)
  /-- The transport has nothing for the worker yet. -/
  | silence
  /-- The name of the host has been looked up. -/
  | resolve
  /-- The request is answered. -/
  | reply (r : Reply)
  /-- Something of the body is received. -/
  | receive (e : BodyEvent)
  /-- The conduit takes in the next `n` bytes of the piece that is being written. -/
  | push (n : Nat)
  /-- The worker panics. -/
  | panic
  /-- One who stops the run clears the running flag. -/
  | clear
  /-- One who stops the run gives the stop signal. -/
  | notify
  /-- One who stops the run tries to close the write end. -/
  | tryClose
  /-- The reader reads at most `n` bytes. -/
  | read (n : Nat)
  /-- The reader goes away. -/
  | leave

/-- The state of a run. -/
structure Run where
  phase : Phase := .preparing
  status : Status := .fresh
  pipe : Pipe := {}
  journal : Journal := []

namespace Run

/-- A run whose worker is about to begin. -/
def fresh : Run := {}

/-- The run with its worker at another place. -/
def goTo (r : Run) (p : Phase) : Run := { r with phase := p }

/-- The run with one more entry in its journal. -/
def log (r : Run) (e : Event) : Run := { r with journal := r.journal ++ [e] }

/-- The run whose worker no longer waits for the stop signal. -/
def stopWaiting (r : Run) : Run :=
  { r with status := { r.status with signal := r.status.signal.abandon } }

/-- The worker has a result, and is about to set the mark that it calls for. -/
def conclude (r : Run) (o : Outcome) : Run := r.goTo (.concluding o)

/-- What a worker does next by itself. -/
def work (t : Task) (r : Run) : Option Run :=
  match r.phase with
  | .preparing =>
    match Url.parse? t.url with
    | none => some (r.conclude (.error (.invalidUrl t.url)))
    | some _ => some ((r.log .connecting).goTo (.asking .reply))
  | .asking w =>
    let (ready, signal) := r.status.signal.look
    let r := { r with status := { r.status with signal } }
    some (if ready then r.conclude (.ok .stopped) else r.goTo (.awaiting w))
  | .betweenChunks =>
    some (if r.status.running then r.goTo (.asking .body) else r.conclude (.ok .stopped))
  | .forwarding [] => some (r.goTo .betweenChunks)
  | .forwarding (piece :: rest) =>
    some (if r.status.running then r.goTo (.entering piece rest) else r.conclude (.ok .stopped))
  | .entering piece rest =>
    some (r.goTo (if r.pipe.closed then .written piece (some .closed) rest
      else .writing piece piece rest))
  | .written piece failure rest =>
    let after := r.status.afterWrite piece.length (failure.map WriteFault.text)
    let phase :=
      match after.exit with
      | some e => .concluding (.ok e)
      | none => .forwarding rest
    some { r with phase, status := after.status, journal := r.journal ++ after.journal }
  | .concluding o => some { r with phase := .telling o, status := o.mark r.status }
  | .telling o =>
    let (exit, event) := o.verdict r.status
    some ((r.log event).goTo (.recording exit))
  | .recording e => some { r with phase := .settling, status := r.status.recordExit e }
  | .unwinding =>
    some ({ r with phase := .settling, status := r.status.recordExit .unexpected }.log .panicked)
  | .settling => some { r with phase := .closing, status := r.status.markStopped }
  | .closing =>
    let (closed, pipe) := r.pipe.close
    let r := { r with phase := .over, pipe }
    some (if closed then r.log .conduitClosed else r)
  | .awaiting _ | .writing _ _ _ | .over => none

/-- What a worker does that turns out not to be set up. The client is set up once the URL has been
read, and nothing that others do makes a difference to that. -/
def giveUp (t : Task) (r : Run) (f : SetupFault) : Option Run :=
  match r.phase, f with
  | .preparing, .runtime _ => some (r.conclude (.error (.ofSetup f)))
  | .preparing, .client _ =>
    (Url.parse? t.url).map (fun _ => (r.log .connecting).conclude (.error (.ofSetup f)))
  | _, _ => none

/-- What a worker does with the answer to its request. -/
def onReply (t : Task) (r : Run) : Reply → Run
  | .answered status =>
    if status = 200 then (r.log .connected).goTo .betweenChunks
    else r.conclude (.error (.httpStatus t.url status))
  | .failed e => r.conclude (.error (.ofClient t.url e))

/-- What a worker does with what it receives of a body. A chunk cannot be cut into pieces of size
zero. -/
def onBody (t : Task) (r : Run) : BodyEvent → Run
  | .finished => r.conclude (.ok .ended)
  | .broken e => r.conclude (.error (.ofClient t.url e.toClientError))
  | .chunk bytes =>
    r.goTo (if t.chunkSize = 0 then .unwinding else .forwarding (bytes.pieces t.chunkSize))

/-- The conduit takes in the next `n` bytes of the piece that is being written. -/
def push (r : Run) (n : Nat) : Option Run :=
  match r.phase with
  | .writing piece left rest =>
    if r.pipe.readerGone then some (r.goTo (.written piece (some .noReader) rest))
    else if 0 < n ∧ n ≤ left.length then
      let phase := if n = left.length then .written piece none rest
        else .writing piece (left.drop n) rest
      some { r with phase, pipe := r.pipe.push (left.take n) }
    else none
  | _ => none

/-- The run after a move, if the move can be made. -/
def step (t : Task) (r : Run) : Move → Option Run
  | .work => r.work t
  | .giveUp f => r.giveUp t f
  | .silence =>
    match r.phase with
    | .awaiting w => some (r.goTo (.asking w))
    | _ => none
  | .resolve =>
    match r.phase with
    | .awaiting .reply => some (r.log .resolved)
    | _ => none
  | .reply a =>
    match r.phase with
    | .awaiting .reply => some (r.stopWaiting.onReply t a)
    | _ => none
  | .receive e =>
    match r.phase with
    | .awaiting .body => some (r.stopWaiting.onBody t e)
    | _ => none
  | .push n => r.push n
  | .panic => if r.phase.isAtWork then some (r.stopWaiting.goTo .unwinding) else none
  | .clear => some { r with status := r.status.markStopped }
  | .notify => if r.status.running then none else some { r with status := r.status.notify }
  | .tryClose =>
    if r.status.running then none
    else some { r with pipe := (r.pipe.tryClose r.phase.holdsWriteEnd).2 }
  | .read n =>
    if r.pipe.isReadable && 0 < n then some { r with pipe := (r.pipe.read n).2 } else none
  | .leave => some { r with pipe := r.pipe.dropReader.2 }

/-- The run after a list of moves, if each of them can be made. -/
def steps (t : Task) (r : Run) : List Move → Option Run
  | [] => some r
  | m :: ms => (r.step t m).bind (fun r' => steps t r' ms)

/-- Moves after moves are made one list after the other. -/
theorem steps_append (t : Task) (r : Run) (ms ns : List Move) :
    r.steps t (ms ++ ns) = (r.steps t ms).bind (fun r' => r'.steps t ns) := by
  induction ms generalizing r with
  | nil => rfl
  | cons m ms ih =>
    simp only [List.cons_append, steps]
    cases r.step t m with
    | none => rfl
    | some r' => exact ih r'

end Run

end StreamRelay

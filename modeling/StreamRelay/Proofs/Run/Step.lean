import Mathlib.Tactic.Lemma
import StreamRelay.Run.Machine

/-!
# What a move can do

The rules by which a run goes on: one for each way in which a move can turn out, with what it asks
for and what it leaves behind. Invariants of a run are proved rule by rule.

Main statement: a move that can be made goes by one of the rules (`Goes.of_step`).
-/

namespace StreamRelay.Run

attribute [simp] goTo log conclude stopWaiting

/-- The run whose worker has looked at the stop signal. -/
@[simp] def looked (r : Run) : Run :=
  { r with status := { r.status with signal := r.status.signal.look.2 } }

/-- What a move can do to a run. -/
inductive Goes (t : Task) (r : Run) : Move → Run → Prop where
  -- What the worker does by itself, up to its wait for the transport.
  | lackRuntime {cause : String} (place : r.phase = .preparing) :
    Goes t r (.giveUp (.runtime cause)) (r.conclude (.error (.runtime cause)))
  | lackClient {cause : Trouble} {u : Url} (place : r.phase = .preparing)
      (good : Url.parse? t.url = some u) :
    Goes t r (.giveUp (.client cause)) ((r.log .connecting).conclude (.error (.client cause)))
  | refuse (place : r.phase = .preparing) (bad : Url.parse? t.url = none) :
    Goes t r .work (r.conclude (.error (.invalidUrl t.url)))
  | connect {u : Url} (place : r.phase = .preparing) (good : Url.parse? t.url = some u) :
    Goes t r .work ((r.log .connecting).goTo (.asking .reply))
  | hear {w : Wait} (place : r.phase = .asking w) (ready : r.status.signal.look.1 = true) :
    Goes t r .work (r.looked.conclude (.ok .stopped))
  | await {w : Wait} (place : r.phase = .asking w) (quiet : r.status.signal.look.1 = false) :
    Goes t r .work (r.looked.goTo (.awaiting w))
  -- What it does between chunks and pieces, where it looks at the running flag.
  | leaveLoop (place : r.phase = .betweenChunks) (off : r.status.running = false) :
    Goes t r .work (r.conclude (.ok .stopped))
  | ask (place : r.phase = .betweenChunks) (on : r.status.running = true) :
    Goes t r .work (r.goTo (.asking .body))
  | emptied (place : r.phase = .forwarding []) : Goes t r .work (r.goTo .betweenChunks)
  | leavePiece {piece : Bytes} {rest : List Bytes} (place : r.phase = .forwarding (piece :: rest))
      (off : r.status.running = false) : Goes t r .work (r.conclude (.ok .stopped))
  | enter {piece : Bytes} {rest : List Bytes} (place : r.phase = .forwarding (piece :: rest))
      (on : r.status.running = true) : Goes t r .work (r.goTo (.entering piece rest))
  | shut {piece : Bytes} {rest : List Bytes} (place : r.phase = .entering piece rest)
      (closed : r.pipe.closed = true) :
    Goes t r .work (r.goTo (.written piece (some .closed) rest))
  | hold {piece : Bytes} {rest : List Bytes} (place : r.phase = .entering piece rest)
      (opened : r.pipe.closed = false) : Goes t r .work (r.goTo (.writing piece piece rest))
  | count {piece : Bytes} {rest : List Bytes} (place : r.phase = .written piece none rest) :
    Goes t r .work
      { r with
        phase := .forwarding rest
        status := r.status.recordPiece piece.length
        journal := r.journal ++ (r.status.afterWrite piece.length none).journal }
  | lose {piece : Bytes} {rest : List Bytes} {f : WriteFault}
      (place : r.phase = .written piece (some f) rest) (on : r.status.running = true) :
    Goes t r .work ((r.log (.readerWentAway f.text)).conclude (.ok .readerGone))
  | leaveFailed {piece : Bytes} {rest : List Bytes} {f : WriteFault}
      (place : r.phase = .written piece (some f) rest) (off : r.status.running = false) :
    Goes t r .work (r.conclude (.ok .stopped))
  -- What it does with its result.
  | mark {o : Outcome} (place : r.phase = .concluding o) :
    Goes t r .work { r with phase := .telling o, status := o.mark r.status }
  | tell {o : Outcome} (place : r.phase = .telling o) :
    Goes t r .work ((r.log (o.verdict r.status).2).goTo (.recording (o.verdict r.status).1))
  | record {e : Exit} (place : r.phase = .recording e) :
    Goes t r .work { r with phase := .settling, status := r.status.recordExit e }
  | recordPanic (place : r.phase = .unwinding) :
    Goes t r .work
      ({ r with phase := .settling, status := r.status.recordExit .unexpected }.log .panicked)
  | settle (place : r.phase = .settling) :
    Goes t r .work { r with phase := .closing, status := r.status.markStopped }
  | close (place : r.phase = .closing) (opened : r.pipe.closed = false) :
    Goes t r .work ({ r with phase := .over, pipe := r.pipe.close.2 }.log .conduitClosed)
  | closeAgain (place : r.phase = .closing) (closed : r.pipe.closed = true) :
    Goes t r .work { r with phase := .over, pipe := r.pipe.close.2 }
  -- What it hears of the transport.
  | silence {w : Wait} (place : r.phase = .awaiting w) : Goes t r .silence (r.goTo (.asking w))
  | resolve (place : r.phase = .awaiting .reply) : Goes t r .resolve (r.log .resolved)
  | accept (place : r.phase = .awaiting .reply) :
    Goes t r (.reply (.answered 200)) ((r.stopWaiting.log .connected).goTo .betweenChunks)
  | reject {status : UInt16} (place : r.phase = .awaiting .reply) (other : status ≠ 200) :
    Goes t r (.reply (.answered status))
      (r.stopWaiting.conclude (.error (.httpStatus t.url status)))
  | unconnected {e : ClientError} (place : r.phase = .awaiting .reply)
      (connecting : e.isConnect = true) :
    Goes t r (.reply (.failed e)) (r.stopWaiting.conclude (.error (.connect t.url e.cause)))
  | fail {e : ClientError} (place : r.phase = .awaiting .reply) (connected : e.isConnect = false) :
    Goes t r (.reply (.failed e)) (r.stopWaiting.conclude (.error (.request t.url e.cause)))
  | finish (place : r.phase = .awaiting .body) :
    Goes t r (.receive .finished) (r.stopWaiting.conclude (.ok .ended))
  | breakOff {e : BodyError} (place : r.phase = .awaiting .body) :
    Goes t r (.receive (.broken e)) (r.stopWaiting.conclude (.error (.request t.url e.cause)))
  | overflow {bytes : Bytes} (place : r.phase = .awaiting .body) (zero : t.chunkSize = 0) :
    Goes t r (.receive (.chunk bytes)) (r.stopWaiting.goTo .unwinding)
  | cut {bytes : Bytes} (place : r.phase = .awaiting .body) (pos : 0 < t.chunkSize) :
    Goes t r (.receive (.chunk bytes))
      (r.stopWaiting.goTo (.forwarding (bytes.pieces t.chunkSize)))
  -- What the conduit does with a piece.
  | snap {piece left : Bytes} {rest : List Bytes} {n : Nat}
      (place : r.phase = .writing piece left rest) (gone : r.pipe.readerGone = true) :
    Goes t r (.push n) (r.goTo (.written piece (some .noReader) rest))
  | pushPart {piece left : Bytes} {rest : List Bytes} {n : Nat}
      (place : r.phase = .writing piece left rest) (here : r.pipe.readerGone = false)
      (pos : 0 < n) (part : n < left.length) :
    Goes t r (.push n)
      { r with phase := .writing piece (left.drop n) rest, pipe := r.pipe.push (left.take n) }
  | pushRest {piece left : Bytes} {rest : List Bytes}
      (place : r.phase = .writing piece left rest) (here : r.pipe.readerGone = false) :
    Goes t r (.push left.length)
      { r with phase := .written piece none rest, pipe := r.pipe.push left }
  -- What befalls the worker, and what others do to the run.
  | panic (work : r.phase.isAtWork = true) : Goes t r .panic (r.stopWaiting.goTo .unwinding)
  | clear : Goes t r .clear { r with status := r.status.markStopped }
  | notify (off : r.status.running = false) :
    Goes t r .notify { r with status := r.status.notify }
  | tryClose (off : r.status.running = false) :
    Goes t r .tryClose { r with pipe := (r.pipe.tryClose r.phase.holdsWriteEnd).2 }
  | read {n : Nat} : Goes t r (.read n) { r with pipe := (r.pipe.read n).2 }
  | leave : Goes t r .leave { r with pipe := r.pipe.dropReader.2 }

variable {t : Task} {r r' : Run}

/-- What a worker does by itself goes by one of the rules. -/
lemma Goes.of_work (step : r.work t = some r') : Goes t r .work r' := by
  cases place : r.phase with
  | preparing =>
    cases url : Url.parse? t.url with
    | none =>
      simp only [work, place, url, Option.some.injEq] at step
      exact step ▸ .refuse place url
    | some u =>
      simp only [work, place, url, Option.some.injEq] at step
      exact step ▸ .connect place url
  | asking w =>
    simp only [work, place, Option.some.injEq] at step
    cases ready : r.status.signal.look.1 with
    | false =>
      simp only [ready, Bool.false_eq_true, if_false] at step
      exact step ▸ .await place ready
    | true =>
      simp only [ready, if_true] at step
      exact step ▸ .hear place ready
  | betweenChunks =>
    simp only [work, place, Option.some.injEq] at step
    cases on : r.status.running with
    | false =>
      simp only [on, Bool.false_eq_true, if_false] at step
      exact step ▸ .leaveLoop place on
    | true =>
      simp only [on, if_true] at step
      exact step ▸ .ask place on
  | forwarding pieces =>
    cases pieces with
    | nil =>
      simp only [work, place, Option.some.injEq] at step
      exact step ▸ .emptied place
    | cons piece rest =>
      simp only [work, place, Option.some.injEq] at step
      cases on : r.status.running with
      | false =>
        simp only [on, Bool.false_eq_true, if_false] at step
        exact step ▸ .leavePiece place on
      | true =>
        simp only [on, if_true] at step
        exact step ▸ .enter place on
  | entering piece rest =>
    simp only [work, place, Option.some.injEq] at step
    cases closed : r.pipe.closed with
    | false =>
      simp only [closed, Bool.false_eq_true, if_false] at step
      exact step ▸ .hold place closed
    | true =>
      simp only [closed, if_true] at step
      exact step ▸ .shut place closed
  | written piece failure rest =>
    simp only [work, place, Option.some.injEq] at step
    cases failure with
    | none => exact step ▸ .count place
    | some f =>
      simp only [Status.afterWrite, Option.map_some] at step
      cases on : r.status.running with
      | false =>
        simp only [on, Bool.false_eq_true, if_false, List.append_nil] at step
        exact step ▸ .leaveFailed place on
      | true =>
        simp only [on, if_true] at step
        exact step ▸ .lose place on
  | concluding o =>
    simp only [work, place, Option.some.injEq] at step
    exact step ▸ .mark place
  | telling o =>
    simp only [work, place, Option.some.injEq] at step
    exact step ▸ .tell place
  | recording e =>
    simp only [work, place, Option.some.injEq] at step
    exact step ▸ .record place
  | unwinding =>
    simp only [work, place, Option.some.injEq] at step
    exact step ▸ .recordPanic place
  | settling =>
    simp only [work, place, Option.some.injEq] at step
    exact step ▸ .settle place
  | closing =>
    simp only [work, place, Option.some.injEq, Pipe.close] at step
    cases closed : r.pipe.closed with
    | false =>
      simp only [closed, Bool.not_false, if_true] at step
      exact step ▸ .close place closed
    | true =>
      simp only [closed, Bool.not_true, Bool.false_eq_true, if_false] at step
      exact step ▸ .closeAgain place closed
  | awaiting w => simp [work, place] at step
  | writing piece left rest => simp [work, place] at step
  | «over» => simp [work, place] at step

/-- What a worker does that turns out not to be set up goes by one of the rules. -/
lemma Goes.of_giveUp {f : SetupFault} (step : r.giveUp t f = some r') :
    Goes t r (.giveUp f) r' := by
  cases place : r.phase with
  | preparing =>
    cases f with
    | runtime cause =>
      simp only [giveUp, place, Option.some.injEq] at step
      exact step ▸ .lackRuntime place
    | client cause =>
      simp only [giveUp, place, Option.map_eq_some_iff] at step
      obtain ⟨u, good, rfl⟩ := step
      exact .lackClient place good
  | _ => simp [giveUp, place] at step

/-- What the conduit takes in goes by one of the rules. -/
lemma Goes.of_push {n : Nat} (step : r.push n = some r') : Goes t r (.push n) r' := by
  cases place : r.phase with
  | writing piece left rest =>
    simp only [push, place] at step
    cases gone : r.pipe.readerGone with
    | true =>
      simp only [gone, if_true, Option.some.injEq] at step
      exact step ▸ .snap place gone
    | false =>
      simp only [gone, Bool.false_eq_true, if_false] at step
      split at step
      · next fits =>
        simp only [Option.some.injEq] at step
        split at step
        · next all =>
          subst all
          rw [List.take_length] at step
          exact step ▸ .pushRest place gone
        · exact step ▸ .pushPart place gone fits.1 (by omega)
      · cases step
  | _ => simp [push, place] at step

/-- A move that can be made goes by one of the rules. -/
theorem Goes.of_step {m : Move} (step : r.step t m = some r') : Goes t r m r' := by
  cases m with
  | work => exact .of_work step
  | giveUp f => exact .of_giveUp step
  | silence =>
    simp only [Run.step] at step
    split at step
    · next w place => cases step; exact .silence place
    · cases step
  | resolve =>
    simp only [Run.step] at step
    split at step
    · next place => cases step; exact .resolve place
    · cases step
  | reply a =>
    simp only [Run.step] at step
    split at step
    · next place =>
      cases step
      cases a with
      | answered status =>
        by_cases good : status = 200
        · subst good
          exact .accept place
        · simp only [onReply, good, if_false]
          exact .reject place good
      | failed e =>
        cases connecting : e.isConnect with
        | true =>
          simp only [onReply, Failure.ofClient_of_isConnect t.url connecting]
          exact .unconnected place connecting
        | false =>
          simp only [onReply, Failure.ofClient_of_connected t.url connecting]
          exact .fail place connecting
    · cases step
  | receive e =>
    simp only [Run.step] at step
    split at step
    · next place =>
      cases step
      cases e with
      | finished => exact .finish place
      | broken e =>
        simp only [onBody, Failure.ofClient_of_connected t.url e.connected]
        exact .breakOff place
      | chunk bytes =>
        by_cases zero : t.chunkSize = 0
        · simp only [onBody, zero, if_true]
          exact .overflow place zero
        · simp only [onBody, zero, if_false]
          exact .cut place (Nat.pos_of_ne_zero zero)
    · cases step
  | push n => exact .of_push step
  | panic =>
    simp only [Run.step] at step
    split at step
    · next work => cases step; exact .panic work
    · cases step
  | clear => cases step; exact .clear
  | notify =>
    simp only [Run.step] at step
    split at step
    · cases step
    · next off => cases step; exact .notify (Bool.not_eq_true _ ▸ off)
  | tryClose =>
    simp only [Run.step] at step
    split at step
    · cases step
    · next off => cases step; exact .tryClose (Bool.not_eq_true _ ▸ off)
  | read n =>
    simp only [Run.step] at step
    split at step
    · cases step; exact .read
    · cases step
  | leave => cases step; exact .leave

end StreamRelay.Run

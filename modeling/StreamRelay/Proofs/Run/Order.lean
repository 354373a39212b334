import StreamRelay.Proofs.Run.History

/-!
# The order of a run

How the flags of a run, its stop signal and the two ends of its conduit depend on each other. The
running flag is never set again; it is cleared from outside or at the end of the worker, and nobody
closes the write end before. The stop signal is given only to a run that has been told to stop, and
it stays there until the worker finds it.

Main statements: these dependences hold of every run that can come about (`Orderly.of_leads`), and a
stop signal is never lost (`Minded.of_leads`).
-/

namespace StreamRelay

namespace Signal

/-- Whether the one for whom the signal is meant finds it when looking next. -/
def isArmed (s : Signal) : Bool :=
  match s.waiter with
  | .absent => s.permit
  | .waiting => false
  | .notified => true

/-- Whether there is no trace of a notification. -/
def isQuiet (s : Signal) : Bool := !s.permit && s.waiter != .notified

/-- The signal is found exactly when it is armed. -/
@[simp] lemma look_fst (s : Signal) : s.look.1 = s.isArmed := by
  obtain ⟨permit, waiter⟩ := s
  cases waiter <;> cases permit <;> rfl

/-- A notification arms the signal. -/
@[simp] lemma isArmed_notify (s : Signal) : s.notify.isArmed = true := by
  obtain ⟨permit, waiter⟩ := s
  cases waiter <;> rfl

/-- A signal stays armed when the waiter goes away. -/
lemma isArmed_abandon {s : Signal} (armed : s.isArmed = true) : s.abandon.isArmed = true := by
  obtain ⟨permit, waiter⟩ := s
  cases waiter with
  | absent => exact armed
  | waiting => cases armed
  | notified => rfl

/-- A look leaves no trace of a notification where there was none. -/
lemma isQuiet_look {s : Signal} (quiet : s.isQuiet = true) : s.look.2.isQuiet = true := by
  obtain ⟨permit, waiter⟩ := s
  cases waiter <;> cases permit <;> first | exact quiet | rfl

/-- A waiter that goes away leaves no trace of a notification where there was none. -/
lemma isQuiet_abandon {s : Signal} (quiet : s.isQuiet = true) : s.abandon.isQuiet = true := by
  obtain ⟨permit, waiter⟩ := s
  cases waiter <;> cases permit <;> exact quiet

/-- An armed signal is not quiet. -/
lemma not_isQuiet_of_isArmed {s : Signal} (armed : s.isArmed = true) : s.isQuiet = false := by
  obtain ⟨permit, waiter⟩ := s
  cases waiter <;> cases permit <;> first | rfl | cases armed

end Signal

namespace Phase

/-- Whether the worker has cleared the running flag itself. -/
def isLast : Phase → Bool
  | .closing | .over => true
  | _ => false

/-- Whether the exit has been recorded. -/
def isSettled : Phase → Bool
  | .settling | .closing | .over => true
  | _ => false

/-- Whether the worker has a result, so that it heeds neither flag nor signal any more. -/
def isBound : Phase → Bool
  | .concluding _ | .telling _ | .recording _ | .unwinding | .settling | .closing | .over => true
  | _ => false

/-- A worker at work has recorded no exit. -/
lemma isSettled_of_isAtWork {p : Phase} (work : p.isAtWork = true) : p.isSettled = false := by
  cases p <;> first | rfl | cases work

/-- A worker at work has not cleared the running flag itself. -/
lemma isLast_of_isAtWork {p : Phase} (work : p.isAtWork = true) : p.isLast = false := by
  cases p <;> first | rfl | cases work

/-- A worker at work is not done. -/
lemma isOver_of_isAtWork {p : Phase} (work : p.isAtWork = true) : p.isOver = false := by
  cases p <;> first | rfl | cases work

end Phase

namespace Outcome

/-- A mark leaves the running flag alone. -/
@[simp] lemma mark_running (s : Status) (o : Outcome) : (o.mark s).running = s.running := by
  unfold mark
  split <;> rfl

/-- A mark leaves the stop signal alone. -/
@[simp] lemma mark_signal (s : Status) (o : Outcome) : (o.mark s).signal = s.signal := by
  unfold mark
  split <;> rfl

/-- A mark leaves the exit alone. -/
@[simp] lemma mark_exit (s : Status) (o : Outcome) : (o.mark s).exit = s.exit := by
  unfold mark
  split <;> rfl

/-- A mark leaves the number of pieces alone. -/
@[simp] lemma mark_pieces (s : Status) (o : Outcome) : (o.mark s).pieces = s.pieces := by
  unfold mark
  split <;> rfl

/-- A mark leaves the number of bytes alone. -/
@[simp] lemma mark_bytes (s : Status) (o : Outcome) : (o.mark s).bytes = s.bytes := by
  unfold mark
  split <;> rfl

end Outcome

namespace Pipe

/-- Who closes the write end does not take the reader away. -/
@[simp] lemma readerGone_tryClose (p : Pipe) (held : Bool) :
    (p.tryClose held).2.readerGone = p.readerGone := by
  cases held <;> rfl

/-- Who closes the write end takes nothing back that was written. -/
@[simp] lemma accepted_tryClose (p : Pipe) (held : Bool) :
    (p.tryClose held).2.accepted = p.accepted := by
  cases held <;> rfl

end Pipe

namespace Run

attribute [local simp] Status.markStopped Status.notify Status.recordPiece Status.recordExit
  Pipe.push Pipe.close Pipe.read Pipe.dropReader Phase.isLast Phase.isSettled History.after

variable {t : Task} {h : History} {r r' : Run} {m : Move}

/-- The running flag is never set again. -/
lemma Goes.off (step : Goes t r m r') (off : r.status.running = false) :
    r'.status.running = false := by
  cases step <;> simp_all

/-- The running flag is cleared from outside or at the end of the worker. -/
lemma Goes.off_of (step : Goes t r m r') (off : r'.status.running = false) :
    r.status.running = false ∨ m = .clear ∨ r'.phase = .closing := by
  cases step <;> simp_all

/-- The write end is closed only once the running flag is cleared. -/
lemma Goes.closed_of (step : Goes t r m r') (closed : r'.pipe.closed = true) :
    r.pipe.closed = true ∨ r.status.running = false ∨ r.phase = .closing := by
  cases step <;> simp_all

/-- A reader goes away by a move of its own. -/
lemma Goes.gone_of (step : Goes t r m r') (gone : r'.pipe.readerGone = true) :
    r.pipe.readerGone = true ∨ m = .leave := by
  cases step <;> simp_all

/-- A worker that has cleared the running flag has no more to do than to close the write end. -/
lemma Goes.isLast_of (step : Goes t r m r') (last : r'.phase.isLast = true) :
    r.phase.isLast = true ∨ r'.status.running = false := by
  cases step <;> simp_all

/-- A worker does not go back to its work once it has cleared the running flag. -/
lemma Goes.isLast (step : Goes t r m r') (last : r.phase.isLast = true) :
    r'.phase.isLast = true := by
  cases step with
  | panic work => rw [Phase.isLast_of_isAtWork work] at last; cases last
  | _ => simp_all

/-- A worker that is done makes no move any more. -/
lemma Goes.isOver_of (step : Goes t r m r') (busy : r'.phase.isOver = false) :
    r.phase.isOver = false := by
  cases step with
  | panic work => exact Phase.isOver_of_isAtWork work
  | _ => simp_all [Phase.isOver]

/-- A run that is going on gets no notification. -/
lemma Goes.quiet (step : Goes t r m r') (on : r'.status.running = true)
    (quiet : r.status.signal.isQuiet = true) : r'.status.signal.isQuiet = true := by
  cases step <;> simp_all [Signal.isQuiet_look, Signal.isQuiet_abandon]

/-- The exit is recorded when the worker settles, and not before. -/
lemma Goes.unset (step : Goes t r m r') (unset : r.phase.isSettled = false → r.status.exit = none)
    (early : r'.phase.isSettled = false) : r'.status.exit = none := by
  cases step with
  | panic work => exact unset (Phase.isSettled_of_isAtWork work)
  | _ => simp_all

/-- How the flags, the stop signal and the conduit of a run depend on each other. -/
structure Orderly (h : History) (r : Run) : Prop where
  /-- Before its worker does so, the running flag is cleared from outside only. -/
  told : r.status.running = false → h.told = true ∨ r.phase.isLast = true
  /-- A worker that is about to close the write end has cleared the running flag. -/
  last : r.phase.isLast = true → r.status.running = false
  /-- The stop signal is given to runs that have been told to stop. -/
  quiet : r.status.running = true → r.status.signal.isQuiet = true
  /-- The write end is closed once the running flag is cleared. -/
  closed : r.pipe.closed = true → r.status.running = false
  /-- The read end is gone only if the reader left. -/
  gone : r.pipe.readerGone = true → h.left = true
  /-- While a run is going on, a write fails for want of a reader. -/
  failed : ∀ {piece f rest}, r.phase = .written piece (some f) rest → r.status.running = true →
    r.pipe.readerGone = true
  /-- There is no exit before the worker settles. -/
  unset : r.phase.isSettled = false → r.status.exit = none

namespace Orderly

/-- A run that is about to begin is orderly. -/
lemma fresh : Orderly {} Run.fresh where
  told off := by cases off
  last last := by cases last
  quiet _ := rfl
  closed closed := by cases closed
  gone gone := by cases gone
  failed place := by cases place
  unset _ := rfl

/-- A stop signal is there only for a run that has been told to stop. -/
lemma off_of_isArmed (ord : Orderly h r) (armed : r.status.signal.isArmed = true) :
    r.status.running = false := by
  cases on : r.status.running with
  | false => rfl
  | true =>
    have quiet := ord.quiet on
    rw [Signal.not_isQuiet_of_isArmed armed] at quiet
    cases quiet

/-- A failed write of a run that is going on found no reader. -/
lemma failed_goes (ord : Orderly h r) (step : Goes t r m r') {piece : Bytes} {f : WriteFault}
    {rest : List Bytes} (place : r'.phase = .written piece (some f) rest)
    (on : r'.status.running = true) : r'.pipe.readerGone = true := by
  -- The flag is never set again, so that the run was going on before as well.
  have on' : r.status.running = true := by
    cases off : r.status.running with
    | true => rfl
    | false => rw [step.off off] at on; cases on
  cases step with
  | shut _ closed => rw [ord.closed closed] at on'; cases on'
  | snap _ gone => exact gone
  | clear => cases on
  | notify off => rw [off] at on'; cases on'
  | tryClose off => rw [off] at on'; cases on'
  | read => exact ord.failed place on
  | leave => rfl
  | resolve at_ => rw [show r.phase = _ from place] at at_; cases at_
  | _ => cases place

/-- A move keeps a run orderly. -/
theorem goes (ord : Orderly h r) (step : Goes t r m r') : Orderly (h.after r m) r' where
  told off := by
    -- The flag was cleared before, or now from outside, or now by the worker.
    rcases step.off_of off with off | rfl | place
    · rcases ord.told off with told | last
      · left
        cases m <;> first | exact told | rfl
      · exact .inr (step.isLast last)
    · exact .inl rfl
    · right
      rw [place]
      rfl
  last last := by
    rcases step.isLast_of last with last | off
    · exact step.off (ord.last last)
    · exact off
  quiet on := by
    apply step.quiet on
    apply ord.quiet
    cases off : r.status.running with
    | true => rfl
    | false => rw [step.off off] at on; cases on
  closed closed := by
    rcases step.closed_of closed with closed | off | place
    · exact step.off (ord.closed closed)
    · exact step.off off
    · exact step.off (ord.last (by rw [place]; rfl))
  gone gone := by
    rcases step.gone_of gone with gone | rfl
    · have left := ord.gone gone
      cases m <;> first | exact left | rfl
    · rfl
  failed place on := ord.failed_goes step place on
  unset early := step.unset ord.unset early

/-- Every run that can come about is orderly. -/
theorem of_leads (leads : Leads t .fresh h r) : Orderly h r := by
  induction leads with
  | refl => exact fresh
  | move _ step ih => exact ih.goes (.of_step step)

end Orderly

/-- A worker that has a result does not go back to its work. -/
lemma Goes.isBound (step : Goes t r m r') (bound : r.phase.isBound = true) :
    r'.phase.isBound = true := by
  cases step <;> simp_all [Phase.isBound]

/-- An armed signal stays armed until the worker finds it or has a result. -/
lemma Goes.isArmed (step : Goes t r m r') (armed : r.status.signal.isArmed = true) :
    r'.status.signal.isArmed = true ∨ r'.phase.isBound = true := by
  cases step <;> simp_all [Phase.isBound, Signal.isArmed_abandon]

/-- A stop signal that was given is still to be found, unless the worker has a result. -/
def Minded (h : History) (r : Run) : Prop :=
  h.notified = true → r.status.signal.isArmed = true ∨ r.phase.isBound = true

namespace Minded

/-- A move loses no stop signal. -/
theorem goes (mind : Minded h r) (step : Goes t r m r') : Minded (h.after r m) r' := by
  intro notified
  cases m with
  | notify =>
    cases step
    exact .inl (Signal.isArmed_notify _)
  | _ =>
    rcases mind notified with armed | bound
    · exact step.isArmed armed
    · exact .inr (step.isBound bound)

/-- No run that can come about has lost a stop signal. -/
theorem of_leads (leads : Leads t .fresh h r) : Minded h r := by
  induction leads with
  | refl =>
    intro notified
    cases notified
  | move _ step ih => exact ih.goes (.of_step step)

end Minded

end Run

end StreamRelay

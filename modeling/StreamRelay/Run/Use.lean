import StreamRelay.Run.Status

/-!
# Uses of a status

All that is done with the status of a run, and what comes of it. The stop signal is asked by one who
does not wait for it, or by one who waits from then on; there is a place for one who waits, and
whoever waits anew takes the place of the one before.
-/

namespace StreamRelay.Status

/-- One thing that is done with a status. -/
inductive Use where
  | markStopped
  | requestShutdown
  | markDnsFailure
  | recordExit (e : Exit)
  | recordPiece (size : Nat)
  /-- The stop signal is asked by one who goes away again. -/
  | ask
  /-- The stop signal is asked by one who waits if it was not given. -/
  | wait
  /-- The one who waits asks again. -/
  | askAgain
  /-- The one who waits goes away. -/
  | leave
deriving DecidableEq, Repr

/-- What comes of it. -/
inductive Answer where
  | done
  /-- The number of pieces that have been counted. -/
  | counted (pieces : UInt64)
  /-- Whether the stop signal was given. -/
  | asked (ready : Bool)
  /-- There is nobody who could ask again. -/
  | nobody
  /-- Whether somebody waited. -/
  | left (first : Bool)
deriving DecidableEq, Repr

/-- Does one thing with a status. -/
def use (s : Status) : Use → Answer × Status
  | .markStopped => (.done, s.markStopped)
  | .requestShutdown => (.done, s.requestShutdown)
  | .markDnsFailure => (.done, s.markDnsFailure)
  | .recordExit e => (.done, s.recordExit e)
  | .recordPiece size => (.counted (s.recordPiece size).pieces, s.recordPiece size)
  | .ask => (.asked s.signal.poll.1, { s with signal := s.signal.poll.2 })
  | .wait => (.asked s.signal.begin.1, { s with signal := s.signal.begin.2 })
  | .askAgain =>
    match s.signal.repoll with
    | (some ready, signal) => (.asked ready, { s with signal })
    | (none, signal) => (.nobody, { s with signal })
  | .leave => (.left s.signal.hasWaiter, { s with signal := s.signal.abandon })

end StreamRelay.Status

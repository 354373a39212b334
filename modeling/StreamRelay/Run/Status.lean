import StreamRelay.Run.Exit
import StreamRelay.Run.Signal

/-!
# The status of a run

What the caller and the worker of one run share: flags, counters, the recorded exit and the stop
signal. Counters wrap at 2^64, and of several exits the first is kept.
-/

namespace StreamRelay

/-- The shared state of one run. -/
structure Status where
  running : Bool := false
  dnsFailure : Bool := false
  pieces : UInt64 := 0
  bytes : UInt64 := 0
  exit : Option Exit := none
  signal : Signal := {}
deriving DecidableEq, Repr

namespace Status

/-- The status of a pump that has not run yet. -/
def idle : Status := {}

/-- The status of a run that is about to start. -/
def fresh : Status := { running := true }

/-- The run is no longer going on. -/
def markStopped (s : Status) : Status := { s with running := false }

/-- Whoever waits for the stop signal is woken. -/
def notify (s : Status) : Status := { s with signal := s.signal.notify }

/-- The run is told to stop. -/
def requestShutdown (s : Status) : Status := s.markStopped.notify

/-- The name of the host has no address. -/
def markDnsFailure (s : Status) : Status := { s with dnsFailure := true }

/-- One more piece of `size` bytes has been relayed. -/
def recordPiece (s : Status) (size : Nat) : Status :=
  { s with pieces := s.pieces + 1, bytes := s.bytes + size.toUInt64 }

/-- The run ended in this way, unless an end is recorded already. -/
def recordExit (s : Status) (e : Exit) : Status := { s with exit := s.exit <|> some e }

/-- Of two recorded exits the first is kept. -/
theorem recordExit_of_some {s : Status} {e : Exit} (h : s.exit = some e) (e' : Exit) :
    s.recordExit e' = s := by
  cases s
  simp_all [recordExit]

/-- An exit that is recorded on a status without one is kept. -/
theorem exit_recordExit_of_none {s : Status} (h : s.exit = none) (e : Exit) :
    (s.recordExit e).exit = some e := by
  simp [recordExit, h]

end Status

end StreamRelay

import StreamRelay.Journal
import StreamRelay.Run.Status
import StreamRelay.Size

/-!
# The spinner

The spinner that shows how far a relay to a file has come.
-/

namespace StreamRelay

/-- A spinner: whether there is one at work, whether it was cut short, and whether it is told to
end. -/
structure Spinner where
  atWork : Bool
  cutShort : Bool := false
  told : Bool
deriving DecidableEq, Repr

namespace Spinner

/-- Sets a spinner to work if one is wanted. One that is not wanted counts as told to end. -/
def spawn (wanted : Bool) : Spinner := { atWork := wanted, told := !wanted }

/-- Cuts a spinner short. -/
def cut (s : Spinner) : Spinner := { s with cutShort := true }

/-- Whether a spinner that is told to end comes to its end by itself. -/
def endsWell (s : Spinner) : Bool := !(s.atWork && s.cutShort)

/-- Tells a spinner to end and waits for it. -/
def finish (s : Spinner) : Spinner × Journal :=
  ({ s with told := true },
    if s.endsWell then [] else [.spinnerFailed "progress spinner task was cancelled"])

/-- What a spinner shows. -/
def message (s : Status) : String := s!"Relaying {Size.text s.bytes} ({s.pieces} chunks)"

end Spinner

end StreamRelay

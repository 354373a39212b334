import StreamRelay.Journal
import StreamRelay.Resolution.Verdict
import StreamRelay.Run.Failure
import StreamRelay.Run.Status

/-!
# Outcomes

What is made of the result of a run: the exit to record, the entry in the journal, and the mark on
the status when the name of the host has no address.

Main statement: a failure gets the exit of a missing address exactly when the mark is set for it
(`verdict_error_eq_dnsFailure_iff`).
-/

namespace StreamRelay

/-- The result of a run: how it ended, or why it failed. -/
abbrev Outcome := Except Failure Exit

namespace Outcome

/-- The exit that an outcome is recorded with, and the entry that the journal gets. -/
def verdict (s : Status) : Outcome → Exit × Event
  | .ok exit => (exit, .ended exit s.pieces s.bytes)
  | .error (.connect _ cause) =>
    let error := Resolution.rendered cause.trail
    if Resolution.isFailure cause.trail then (.dnsFailure, .unresolved error)
    else (.connectionFailed, .unconnected error)
  | .error (.httpStatus _ status) => (.httpStatus status, .badStatus status)
  | .error f@(.request _ _) | .error f@(.invalidUrl _) =>
    (.requestFailed, .requestFailed (Resolution.rendered f.trail))
  -- This entry has the failure in its debugging form, of which the words are kept here.
  | .error f@(.client _) | .error f@(.runtime _) =>
    (.unexpected, .setupFailed (Resolution.rendered f.trail))

/-- Whether an outcome is a connection that failed because the host has no address. -/
def isUnresolved : Outcome → Bool
  | .error (.connect _ cause) => Resolution.isFailure cause.trail
  | _ => false

/-- The status with the mark that an outcome calls for. -/
def mark (s : Status) (o : Outcome) : Status := if o.isUnresolved then s.markDnsFailure else s

/-- The status, the exit and the entry that an outcome leads to. -/
def conclude (s : Status) (o : Outcome) : Status × Exit × Event := (mark s o, verdict s o)

/-- Of failures, those of connecting to a host without an address lead to the exit that says so. -/
theorem verdict_error_eq_dnsFailure_iff (s : Status) (f : Failure) :
    (verdict s (.error f)).1 = .dnsFailure ↔ isUnresolved (.error f) = true := by
  cases f with
  | connect url cause =>
    simp only [verdict, isUnresolved]
    split <;> simp_all
  | _ => simp [verdict, isUnresolved]

end Outcome

end StreamRelay

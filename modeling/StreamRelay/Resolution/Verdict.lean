import StreamRelay.Fault.Trail
import StreamRelay.Resolution.Phrases

/-!
# The verdict on a trail of causes

A trail of faults tells of a failed look-up if one of the faults is one, or if a phrase of the table
occurs in the text of the trail.
-/

namespace StreamRelay.Resolution

/-- What stands between the texts of two faults of a trail. -/
def separator : String := ": "

/-- The text of a trail: those of its faults, from the outermost inwards. -/
def rendered (trail : List Fault) : String :=
  String.ofList (separator.toList.intercalate (trail.map (·.text.toList)))

/-- Whether a trail tells of a host name without an address. -/
def isFailure (trail : List Fault) : Bool :=
  trail.any Fault.isUnresolved || mentionsFailure (rendered trail)

end StreamRelay.Resolution

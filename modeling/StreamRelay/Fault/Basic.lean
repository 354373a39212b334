/-!
# Faults

What one link of a chain of causes says about a failure. A failed look-up of a host name is told
apart from every other fault, because the end of a run depends on it.
-/

namespace StreamRelay

/-- One fault in a chain of causes. -/
inductive Fault where
  /-- A fault known by its text alone. -/
  | plain (text : String)
  /-- The name `host` could not be turned into an address, for the reason `detail`. -/
  | unresolved (host detail : String)
deriving DecidableEq, Repr

namespace Fault

/-- What a fault says on its own. -/
def text : Fault → String
  | plain text => text
  | unresolved host detail => s!"name resolution failed for {host}: {detail}"

/-- Whether a fault is a failed look-up of a host name. -/
def isUnresolved : Fault → Bool
  | plain _ => false
  | unresolved _ _ => true

/-- The faults that a failed look-up brings into a chain: itself and its reason. -/
def ofLookup (host detail : String) : List Fault := [unresolved host detail, plain detail]

end Fault

end StreamRelay

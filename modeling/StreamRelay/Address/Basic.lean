import StreamRelay.Address.V6

/-!
# Addresses

The addresses of hosts, of either version.
-/

namespace StreamRelay

/-- An address of a host. -/
inductive Address where
  | v4 (address : V4)
  /-- The zone is the number of the network interface that the address belongs to; it is zero for an
  address that belongs to no one interface. -/
  | v6 (address : V6) (zone : UInt32 := 0)
deriving DecidableEq

/-- The text of an address together with a port. -/
def Address.withPort (a : Address) (port : UInt16) : String :=
  match a with
  | .v4 a => s!"{a.text}:{port}"
  | .v6 a zone => if zone = 0 then s!"[{a.text}]:{port}" else s!"[{a.text}%{zone}]:{port}"

end StreamRelay

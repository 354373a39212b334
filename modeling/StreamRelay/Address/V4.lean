import StreamRelay.Address.Numeral

/-!
# Addresses of four octets

The addresses of version 4, their text, and the shorter forms in which one to four numbers stand for
one.
-/

namespace StreamRelay

/-- An address of version 4. -/
structure V4 where
  word : UInt32
deriving DecidableEq, Repr

namespace V4

/-- The four octets of an address. -/
def octets (a : V4) : List Nat :=
  let n := a.word.toNat
  [n >>> 24, (n >>> 16) % 256, (n >>> 8) % 256, n % 256]

/-- The text of an address. -/
def text (a : V4) : String := ".".intercalate (a.octets.map toString)

/-- The value that numbers stand for: all but the last are octets, and the last fills the rest. -/
def fill (start : Nat) : Nat → List Nat → Option Nat
  | _, [] => none
  | room, [last] => if last < Nat.pow 256 room then some (start * Nat.pow 256 room + last) else none
  | 0, _ :: _ => none
  | room + 1, n :: ns => if n < 256 then fill (start * 256 + n) room ns else none

/-- The address that one to four numbers stand for. -/
def ofNumbers? (ns : List Nat) : Option V4 :=
  if ns.length ≤ 4 then (fill 0 4 ns).map (fun n => ⟨n.toUInt32⟩) else none

/-- The number that a part of the short form of a resolver stands for. There is a digit behind `0x`.
-/
def shortPart? (cs : List Char) : Option Nat :=
  if cs = ['0', 'x'] ∨ cs = ['0', 'X'] then none else Numeral.prefixed cs

/-- The address that a resolver takes a text for: one to four numbers between dots. -/
def ofShort? (cs : List Char) : Option V4 :=
  ((Numeral.parts cs).mapM shortPart?).bind ofNumbers?

/-- The value of an octet in its full form, which has no needless zero in front. -/
def octet? (cs : List Char) : Option Nat :=
  match cs with
  | [] => none
  | ['0'] => some 0
  | '0' :: _ => none
  | _ => (Numeral.value 10 cs).filter (· < 256)

/-- The address that a text is the full form of. -/
def ofText? (cs : List Char) : Option V4 :=
  let ps := Numeral.parts cs
  if ps.length = 4 then (ps.mapM octet?).bind ofNumbers? else none

end V4

end StreamRelay

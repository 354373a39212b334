import StreamRelay.Name.Basic
import StreamRelay.Url.Basic
import StreamRelay.Url.Percent

/-!
# Hosts of URLs

How the host of a URL is read from its text.
-/

namespace StreamRelay.Host

/-- The characters that no host may hold. -/
def isForbidden (c : Char) : Bool := c.toNat = 0 || "\t\n\r #/:<>?@[\\]^|".toList.contains c

/-- The characters that no name may hold. -/
def isForbiddenInName (c : Char) : Bool :=
  isForbidden c || c == '%' || c.toNat < 0x20 || c.toNat = 0x7F

/-- The parts of a name that may be an address of version 4; a dot may end it. -/
def numberParts (cs : List Char) : List (List Char) :=
  let ps := Numeral.parts cs
  if 1 < ps.length ∧ ps.getLast? = some [] then ps.dropLast else ps

/-- Whether a name is meant to be an address of version 4: its last part is a number. -/
def endsInNumber (cs : List Char) : Bool :=
  match (numberParts cs).getLast? with
  | none => false
  | some last =>
    !last.isEmpty &&
      (last.all Char.isDigit || (last.take 2 == ['0', 'x'] && (Numeral.prefixed last).isSome))

/-- The host that a name stands for, in a URL with a special scheme. -/
def ofName? (cs : List Char) : Option Host := do
  let decoded ← Percent.decodeText? cs
  let name ← Name.ascii? decoded
  if name.isEmpty || name.any isForbiddenInName then none
  else if endsInNumber name then
    return .address (.v4 (← ((numberParts name).mapM Numeral.prefixed).bind V4.ofNumbers?))
  else return .name name

/-- The host that a text in a URL stands for. -/
def ofText? (special : Bool) (cs : List Char) : Option Host :=
  match cs with
  | '[' :: rest =>
    if rest.getLast? = some ']' then (V6.ofText? rest.dropLast).map (fun a => .address (.v6 a))
    else none
  | _ =>
    if special then ofName? cs
    else if cs.any isForbidden then none
    else some (.other (Percent.encode Percent.isControl cs))

end StreamRelay.Host

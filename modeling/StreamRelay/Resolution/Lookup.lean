import StreamRelay.Address.Basic
import StreamRelay.Fault.Basic

/-!
# Look-ups

How the name of a host becomes addresses: literals and the names that every host knows have theirs,
and for all others a name server would have to be asked.
-/

namespace StreamRelay.Resolution

/-- The reason for a name that cannot have an address. -/
def unknownName : String := "failed to lookup address information: Name or service not known"

/-- The reason for a name that no name server could be asked for. -/
def noServer : String :=
  "failed to lookup address information: Temporary failure in name resolution"

/-- The reason for a name with a zero character in it. -/
def zeroInName : String := "file name contained an unexpected NUL byte"

/-- The greatest length of a part of a name, in bytes. -/
def maxLabelLength : Nat := 63

/-- The greatest length of a name, in bytes, where each part has a byte for its length, and another
such byte ends the name. -/
def maxNameLength : Nat := 255

/-- The value of three digits. -/
def decimal? (a b c : Char) : Option Nat := Numeral.value 10 [a, b, c]

/-- The lengths in bytes of the parts of a name, of which the first has `n` bytes more. A backslash
takes the character behind it, or the byte that three digits tell, for what it is. -/
def partLengths (n : Nat) : List Char → Option (List Nat)
  | [] => some [n]
  | '.' :: cs => (partLengths 0 cs).map (n :: ·)
  | '\\' :: cs =>
    match cs with
    | [] => none
    | a :: cs =>
      if a.isDigit then
        match cs with
        | b :: c :: cs => if (decimal? a b c).any (· < 256) then partLengths (n + 1) cs else none
        | _ => none
      else partLengths (n + a.utf8Size) cs
  | c :: cs => partLengths (n + c.utf8Size) cs

/-- The lengths of the parts of a name, without the empty part behind a dot at its end. -/
def withoutEnd (lengths : List Nat) : List Nat :=
  if 1 < lengths.length ∧ lengths.getLast? = some 0 then lengths.dropLast else lengths

/-- Whether a name can be asked for: no part of it is empty or too long, nor is the name; a dot may
end it. -/
def isAskable (name : List Char) : Bool :=
  match (partLengths 0 name).map withoutEnd with
  | none => false
  | some lengths =>
    name == ['.'] ||
      (lengths.all (fun n => 0 < n && n ≤ maxLabelLength) &&
        lengths.foldr (· + ·) 0 + lengths.length + 1 ≤ maxNameLength)

/-- The name of the interface that leads back to its own host. -/
def loopbackName : List Char := ['l', 'o']

/-- The number of the interface that leads back to its own host. -/
def loopbackZone : UInt32 := 1

/-- The zone that a text stands for behind an address: its number, or for an address on one link its
name. -/
def zone? (a : V6) (cs : List Char) : Option UInt32 :=
  if a.isOnLink && cs == loopbackName then some loopbackZone
  else if !cs.isEmpty && cs.all Char.isDigit then
    ((Numeral.value 10 cs).filter (· < UInt32.size)).map Nat.toUInt32
  else none

/-- What comes of reading a host as a literal: an address, or nothing where the text behind `%` is
no zone. For a host that is no literal there is no outcome. -/
def literal? (host : List Char) : Option (Option Address) :=
  match V4.ofShort? host with
  | some a => some (some (.v4 a))
  | none =>
    let behind := host.dropWhile (· != '%')
    (V6.ofText? (host.takeWhile (· != '%'))).map (fun a =>
      if behind.isEmpty then some (.v6 a)
      else (zone? a (behind.drop 1)).map (fun zone => .v6 a zone))

/-- The name that every host knows itself by. -/
def ownName : String := "localhost"

/-- The addresses of a host, or why there are none. -/
def lookup (host : String) : Except String (List Address) :=
  let cs := host.toList
  match literal? cs with
  | some (some a) => .ok [a]
  | some none => .error unknownName
  | none =>
    if host.toLower = ownName then .ok [.v4 ⟨0x7F000001⟩]
    else if cs.contains '\x00' then .error zeroInName
    else if isAskable cs then .error noServer
    else .error unknownName

end StreamRelay.Resolution

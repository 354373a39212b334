import StreamRelay.Address.V4

/-!
# Addresses of eight groups

The addresses of version 6 and their text, in which the longest run of zero groups is left out.
-/

namespace StreamRelay

/-- An address of version 6. -/
structure V6 where
  groups : Vector UInt16 8
deriving DecidableEq

namespace V6

/-- The address of exactly eight groups. -/
def ofGroups? (gs : List Nat) : Option V6 :=
  if h : gs.length = 8 then
    some ⟨⟨(gs.map Nat.toUInt16).toArray, by simp [h]⟩⟩
  else none

/-- The value of a group: one to four hexadecimal digits. -/
def group? (cs : List Char) : Option Nat :=
  if cs.isEmpty || 4 < cs.length then none else Numeral.value 16 cs

/-- The parts of a text between the colons in it. -/
def fields : List Char → List (List Char)
  | [] => [[]]
  | c :: cs =>
    if c = ':' then [] :: fields cs
    else match fields cs with
      | [] => [[c]]
      | p :: ps => (c :: p) :: ps

/-- The groups that a list of fields stands for; an address of version 4 may take the place of the
last two groups. -/
def groupsOf : List (List Char) → Option (List Nat)
  | [] => some []
  | [last] =>
    if last.contains '.' then
      (V4.ofText? last).map (fun a => [a.word.toNat / 0x10000, a.word.toNat % 0x10000])
    else (group? last).map (fun g => [g])
  | f :: fs => do return (← group? f) :: (← groupsOf fs)

/-- The text before and after the first double colon. -/
def splitDouble : List Char → Option (List Char × List Char)
  | [] => none
  | c :: cs =>
    match c, cs with
    | ':', ':' :: rest => some ([], rest)
    | _, _ => (splitDouble cs).map (fun (before, after) => (c :: before, after))

/-- The fields of one side of a double colon, of which there are none in the empty text. -/
def sideFields (cs : List Char) : List (List Char) := if cs.isEmpty then [] else fields cs

/-- The address that a text stands for. -/
def ofText? (cs : List Char) : Option V6 :=
  match splitDouble cs with
  | none => (groupsOf (fields cs)).bind ofGroups?
  | some (before, after) => do
    let left ← (sideFields before).mapM group?
    let right ← groupsOf (sideFields after)
    let missing := 8 - (left.length + right.length)
    if missing = 0 then none
    else ofGroups? (left ++ List.replicate missing 0 ++ right)

/-- The length of the run of zeros that a list starts with. -/
def zeros (gs : List Nat) : Nat := (gs.takeWhile (· = 0)).length

/-- The start and the length of the first of the longest runs of zeros, from the index `i` on. -/
def longestZeros (i : Nat) : List Nat → Nat × Nat
  | [] => (i, 0)
  | g :: gs =>
    let here := zeros (g :: gs)
    let later := longestZeros (i + 1) gs
    if later.2 ≤ here then (i, here) else later

/-- The text of groups with colons between them. -/
def joined (gs : List Nat) : List Char :=
  [':'].intercalate (gs.map Numeral.hex)

/-- The text of the groups of an address; a run of at least two zeros is left out. -/
def compressed (gs : List Nat) : List Char :=
  let (start, count) := longestZeros 0 gs
  if 2 ≤ count then joined (gs.take start) ++ [':', ':'] ++ joined (gs.drop (start + count))
  else joined gs

/-- The groups of an address, as numbers. -/
def numbers (a : V6) : List Nat := a.groups.toList.map UInt16.toNat

/-- The text of an address in groups. -/
def groupText (a : V6) : String := String.ofList (compressed a.numbers)

/-- The address of version 4 that is mapped into one of version 6. -/
def mapped? (a : V6) : Option V4 :=
  match a.numbers with
  | [0, 0, 0, 0, 0, 0xFFFF, high, low] => some ⟨(high * 0x10000 + low).toUInt32⟩
  | _ => none

/-- The text of an address, in which a mapped address of version 4 keeps its form. -/
def text (a : V6) : String :=
  match a.mapped? with
  | some v4 => s!"::ffff:{v4.text}"
  | none => a.groupText

/-- Whether an address is that of an interface, or of a group of them, on one link. -/
def isOnLink (a : V6) : Bool :=
  let high := a.numbers.headD 0
  high >>> 6 == 0xFE80 >>> 6 || high >>> 8 == 0xFF && high % 16 == 2

end V6

end StreamRelay

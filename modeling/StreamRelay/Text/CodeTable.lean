import StreamRelay.Address.Numeral

/-!
# Tables of code points

Sets of characters, and maps from characters to texts, that are written down as lines of rows with
a blank between two rows. Code points are hexadecimal. The rows are in order and do not overlap, so
that a character is looked up by halving.

A row of a set is one code point or a range of them: `0483-0489`. A row of a map gives the texts of
consecutive code points, as in `FB00=0066.0066,0066.0069`, or what the first code point of a range
becomes, where the others follow at the same distance, as in `0391-03A1=03B1`; the range may go in
steps of two, as in `0100-012E/2=0101`.
-/

namespace StreamRelay.Text

/-- The parts of a text between the separators in it. -/
def fields (separator : Char) : List Char → List (List Char)
  | [] => [[]]
  | c :: cs =>
    if c = separator then [] :: fields separator cs
    else match fields separator cs with
      | [] => [[c]]
      | p :: ps => (c :: p) :: ps

/-- The code point that a numeral stands for. -/
def codePoint (cs : List Char) : Nat := (Numeral.value 16 cs).getD 0

/-- The first and the last code point of a range. -/
def readRange (cs : List Char) : Nat × Nat :=
  match fields '-' cs with
  | [first, last] => (codePoint first, codePoint last)
  | _ => (codePoint cs, codePoint cs)

/-- The rows of lines. -/
def readRows (lines : List String) : List (List Char) :=
  lines.flatMap (fun l => fields ' ' l.toList)

/-- A set of characters, as ranges of code points. -/
structure CodeSet where
  ranges : Array (Nat × Nat)

namespace CodeSet

/-- The set that lines write down. -/
def ofLines (lines : List String) : CodeSet := ⟨((readRows lines).map readRange).toArray⟩

/-- Whether a character is in a set. -/
def contains (s : CodeSet) (c : Char) : Bool :=
  s.ranges.binSearchContains (c.toNat, c.toNat) (fun a b => a.2 < b.1)

end CodeSet

/-- The entries of a row of a map. -/
def readEntries (row : List Char) : List (Nat × List Char) :=
  match fields '=' row with
  | [codes, texts] =>
    let step := if codes.contains '/' then 2 else 1
    let (first, last) := readRange (codes.takeWhile (· != '/'))
    if first = last then
      (fields ',' texts).mapIdx (fun i t =>
        (first + i, (fields '.' t).map (fun p => Char.ofNat (codePoint p))))
    else
      (List.range ((last - first) / step + 1)).map (fun i =>
        (first + step * i, [Char.ofNat (codePoint texts + step * i)]))
  | _ => []

/-- A map from characters to texts, by their code points. -/
structure CodeMap where
  entries : Array (Nat × List Char)

namespace CodeMap

/-- The map that lines write down. -/
def ofLines (lines : List String) : CodeMap := ⟨((readRows lines).flatMap readEntries).toArray⟩

/-- The text of a character. -/
def find? (m : CodeMap) (c : Char) : Option (List Char) :=
  (m.entries.binSearch (c.toNat, []) (fun a b => a.1 < b.1)).map (·.2)

/-- The character that has this text. -/
def key? (m : CodeMap) (text : List Char) : Option Char :=
  (m.entries.find? (fun e => e.2 == text)).map (fun e => Char.ofNat e.1)

end CodeMap

end StreamRelay.Text

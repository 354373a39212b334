import StreamRelay.Name.Form
import StreamRelay.Text.Composition
import StreamRelay.Text.Direction
import StreamRelay.Text.Joining
import StreamRelay.Text.Mark
import StreamRelay.Text.Punycode

/-!
# Labels

The parts of a host name between its dots, and what makes a text one of them. A label outside ASCII
has an ASCII form, which begins with a prefix of its own.
-/

namespace StreamRelay.Name

open Text

/-- The two characters that tell whether the letters around them join. -/
def isJoiner (c : Char) : Bool := c == '\u200C' || c == '\u200D'

/-- Whether the nearest character that counts for joining joins in one of these ways. -/
def joins (ways : List Joining) (cs : List Char) : Bool :=
  match cs.dropWhile (fun c => joining c = .through) with
  | [] => false
  | c :: _ => ways.contains (joining c)

/-- Whether a joiner may stand between what is before it, held back to front, and what is behind
it: behind a sign that takes away a vowel, or to part two letters that would join. -/
def mayStand (joiner : Char) (before after : List Char) : Bool :=
  match before with
  | [] => false
  | c :: _ =>
    combiningClass c = vowelKiller ||
      (joiner == '\u200C' && joins [.next, .both] before && joins [.previous, .both] after)

/-- Whether all joiners of a text may stand where they do. What is before it is held back to front.
-/
def joinersFit (before : List Char) : List Char → Bool
  | [] => true
  | c :: cs => (!isJoiner c || mayStand c before cs) && joinersFit (c :: before) cs

/-- The directions that a label from left to right may hold. -/
def rightward : List Direction :=
  [.left, .europeanNumber, .separator, .commonSeparator, .terminator, .neutral, .boundary, .mark]

/-- The directions that a label from right to left may hold. -/
def leftward : List Direction :=
  [.right, .arabicLetter, .arabicNumber, .europeanNumber, .separator, .commonSeparator, .terminator,
    .neutral, .boundary, .mark]

/-- Whether a label that begins with a letter holds only some directions and ends, but for marks,
with one of others. -/
def isWritten (inside atEnd : List Direction) (ds : List Direction) : Bool :=
  ds.all inside.contains &&
    ((ds.reverse.dropWhile (· = .mark)).head?.any atEnd.contains)

/-- Whether the direction of a label is plain: it begins with a letter, which tells the direction,
and goes that way to its end. A label from right to left has digits of one kind only. -/
def isDirected (cs : List Char) : Bool :=
  let ds := cs.map direction
  match ds with
  | [] => true
  | .left :: _ => isWritten rightward [.left, .europeanNumber] ds
  | .right :: _ | .arabicLetter :: _ =>
    isWritten leftward [.right, .arabicLetter, .europeanNumber, .arabicNumber] ds &&
      !(ds.contains .europeanNumber && ds.contains .arabicNumber)
  | _ => false

/-- What the ASCII form of a label begins with. -/
def asciiPrefix : List Char := "xn--".toList

/-- The greatest length of a label outside ASCII. -/
def maxLength : Nat := 1000

/-- The greatest length of the ASCII form of a label, without the prefix. -/
def maxAsciiLength : Nat := 2000

/-- Whether a text can be a label: nothing in it would be changed, it is composed, it does not begin
with a mark or like an ASCII form, and its joiners fit. -/
def isLabel (cs : List Char) : Bool :=
  cs.all isKept && composed cs == cs && !cs.head?.any isMark && joinersFit [] cs &&
    !asciiPrefix.isPrefixOf cs && (cs.all Punycode.isAscii || cs.length ≤ maxLength)

/-- A label, and its ASCII form. -/
structure Label where
  text : List Char
  ascii : List Char
deriving DecidableEq, Repr

namespace Label

/-- The label that has an ASCII form, without the prefix. Only labels outside ASCII have one. -/
def ofAscii? (cs : List Char) : Option Label := do
  if !cs.all Punycode.isAscii || maxAsciiLength < cs.length then none
  else
    let text ← Punycode.decode? cs
    if isLabel text && !text.all Punycode.isAscii then some ⟨text, asciiPrefix ++ cs⟩ else none

/-- The label that a part of a name stands for. -/
def ofText? (cs : List Char) : Option Label :=
  if asciiPrefix.isPrefixOf cs then ofAscii? (cs.drop asciiPrefix.length)
  else if isLabel cs then
    some ⟨cs, if cs.all Punycode.isAscii then cs else asciiPrefix ++ Punycode.encode cs⟩
  else none

end Label

end StreamRelay.Name

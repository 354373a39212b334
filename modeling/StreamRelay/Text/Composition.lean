import StreamRelay.Text.CombiningClass
import StreamRelay.Text.Pair

/-!
# Canonical composition

One text can be written in several ways: `é` is one character, or an `e` with an accent behind it.
The composed form is the one of them with the fewest characters. A text is taken apart, its marks
are put in order by their classes, and then each base takes in what it can be one character with.
-/

namespace StreamRelay.Text

/-- Puts a mark in front of a text, behind the marks there that have a lower class. -/
def insertMark (m : Char) : List Char → List Char
  | [] => [m]
  | c :: cs =>
    if combiningClass c ≠ 0 ∧ combiningClass c < combiningClass m then c :: insertMark m cs
    else m :: c :: cs

/-- A text with the marks behind each base in the order of their classes. -/
def ordered : List Char → List Char
  | [] => []
  | c :: cs => if combiningClass c = 0 then c :: ordered cs else insertMark c (ordered cs)

/-- Whether what was kept between a base and a character keeps these two apart. The kept marks are
held back to front. -/
def isBlocked (kept : List Char) (c : Char) : Bool :=
  match kept with
  | [] => false
  | m :: _ => combiningClass c ≤ combiningClass m

/-- The composed form of a base, the marks that it could not take in, which are held back to front,
and the text behind them. -/
def composedFrom (base : Char) (kept : List Char) : List Char → List Char
  | [] => base :: kept.reverse
  | c :: cs =>
    match if isBlocked kept c then none else joined? base c with
    | some whole => composedFrom whole kept cs
    | none =>
      if combiningClass c = 0 then base :: kept.reverse ++ composedFrom c [] cs
      else composedFrom base (c :: kept) cs

/-- The composed form of a text that is taken apart and in order. -/
def composedParts : List Char → List Char
  | [] => []
  | c :: cs => if combiningClass c = 0 then composedFrom c [] cs else c :: composedParts cs

/-- The composed form of a text. A text in ASCII is its own. -/
def composed (cs : List Char) : List Char :=
  if cs.all (fun c => c.toNat < 0x80) then cs else composedParts (ordered (cs.flatMap parts))

/-- A text in ASCII is composed. -/
theorem composed_of_ascii {cs : List Char} (h : cs.all (fun c => c.toNat < 0x80)) :
    composed cs = cs := if_pos h

end StreamRelay.Text

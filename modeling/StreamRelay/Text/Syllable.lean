/-!
# Korean syllables

A syllable of the Korean script is one character, and is made of two or three letters: one to begin
with, a vowel, and maybe one to end with. The syllables are in order by the first letter, then by
the vowel, then by the last letter.
-/

namespace StreamRelay.Text.Syllable

/-- The first syllable. -/
def start : Nat := 0xAC00

/-- The first letter that syllables begin with. -/
def headStart : Nat := 0x1100

/-- The number of letters that syllables begin with. -/
def heads : Nat := 19

/-- The first vowel. -/
def vowelStart : Nat := 0x1161

/-- The number of vowels. -/
def vowels : Nat := 21

/-- The code point before that of the first letter that syllables end with. -/
def tailStart : Nat := 0x11A7

/-- The number of ways in which syllables end; the first is to end with the vowel. -/
def tails : Nat := 28

/-- The number of a syllable. -/
def index? (c : Char) : Option Nat :=
  if start ≤ c.toNat ∧ c.toNat < start + heads * vowels * tails then some (c.toNat - start)
  else none

/-- The letters of the syllable with this number. -/
def letters (i : Nat) : List Char :=
  let head := Char.ofNat (headStart + i / (vowels * tails))
  let vowel := Char.ofNat (vowelStart + i / tails % vowels)
  if i % tails = 0 then [head, vowel] else [head, vowel, Char.ofNat (tailStart + i % tails)]

/-- Whether a code point is one of `n` from a first one on. -/
def isAmong (first n : Nat) (c : Char) : Bool := first ≤ c.toNat && c.toNat < first + n

/-- The syllable that two characters make up: the letter to begin with and the vowel, or a syllable
that ends with its vowel and a letter to end with. -/
def ofPair? (a b : Char) : Option Char :=
  if isAmong headStart heads a && isAmong vowelStart vowels b then
    let i := (a.toNat - headStart) * vowels + (b.toNat - vowelStart)
    some (Char.ofNat (start + i * tails))
  else match index? a with
    | some i =>
      if i % tails = 0 && isAmong (tailStart + 1) (tails - 1) b then
        some (Char.ofNat (a.toNat + (b.toNat - tailStart)))
      else none
    | none => none

end StreamRelay.Text.Syllable

/-!
# Numerals of addresses

The digits and numbers that the parts of an address are written with.
-/

namespace StreamRelay.Numeral

/-- The value of a digit in base 16. -/
def digit? (c : Char) : Option Nat :=
  if c.isDigit then some (c.toNat - '0'.toNat)
  else if 'a' ≤ c ∧ c ≤ 'f' then some (c.toNat - 'a'.toNat + 10)
  else if 'A' ≤ c ∧ c ≤ 'F' then some (c.toNat - 'A'.toNat + 10)
  else none

/-- The value of digits in a base, after a start of value `acc`. -/
def valueFrom (base acc : Nat) : List Char → Option Nat
  | [] => some acc
  | c :: cs =>
    match digit? c with
    | some d => if d < base then valueFrom base (acc * base + d) cs else none
    | none => none

/-- The value of digits in a base; no digits have the value zero. -/
def value (base : Nat) (cs : List Char) : Option Nat := valueFrom base 0 cs

/-- The value of a numeral that is decimal, octal behind `0` or hexadecimal behind `0x`. -/
def prefixed : List Char → Option Nat
  | [] => none
  | ['0'] => some 0
  | '0' :: c :: cs => if c = 'x' ∨ c = 'X' then value 16 cs else value 8 (c :: cs)
  | cs => value 10 cs

/-- The parts of a text between the dots in it. -/
def parts : List Char → List (List Char)
  | [] => [[]]
  | c :: cs =>
    if c = '.' then [] :: parts cs
    else match parts cs with
      | [] => [[c]]
      | p :: ps => (c :: p) :: ps

/-- The digit of a value below 16, in lower case. -/
def hexDigit (n : Nat) : Char := "0123456789abcdef".toList.getD n '0'

/-- The hexadecimal digits of a number, in lower case. -/
def hex (n : Nat) : List Char := Nat.toDigits 16 n

end StreamRelay.Numeral

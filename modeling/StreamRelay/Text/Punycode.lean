/-!
# Punycode

An ASCII form of texts: the characters outside ASCII are taken out and told, behind a dash, by
numbers that say where they stood. A number is written in digits of base 36, the least first, and
ends with the first digit below a threshold.
-/

namespace StreamRelay.Punycode

/-- The number of digits. -/
def base : Nat := 36

/-- The least threshold. -/
def minThreshold : Nat := 1

/-- The greatest threshold. -/
def maxThreshold : Nat := 26

/-- The character of a digit. -/
def digit (n : Nat) : Char := "abcdefghijklmnopqrstuvwxyz0123456789".toList.getD n 'a'

/-- The threshold at a place of a number; the places count by the base. -/
def threshold (bias place : Nat) : Nat := max minThreshold (min maxThreshold (place - bias))

/-- The digits of a number from a place on. -/
def digitsFrom (bias place n : Nat) : List Char :=
  let t := threshold bias place
  if n < t then [digit n]
  else digit (t + (n - t) % (base - t)) :: digitsFrom bias (place + base) ((n - t) / (base - t))
termination_by n
decreasing_by
  have least : 1 ≤ threshold bias place := Nat.le_max_left _ _
  have most : threshold bias place ≤ 26 := Nat.max_le.2 ⟨by decide, Nat.min_le_left _ _⟩
  have := Nat.div_le_self (n - threshold bias place) (base - threshold bias place)
  omega

/-- The digits of a number. -/
def digits (bias n : Nat) : List Char := digitsFrom bias base n

/-- The bias for a number whose size is known only roughly. -/
def scaled (bias n : Nat) : Nat :=
  if 455 < n then scaled (bias + base) (n / 35) else bias + base * n / (n + 38)
termination_by n

/-- The bias after a number, of which the first is damped; `count` characters have been placed. -/
def adapted (n count : Nat) (isFirst : Bool) : Nat :=
  let n := if isFirst then n / 700 else n / 2
  scaled 0 (n + n / count)

/-- How far the encoding of a text has come. -/
structure Encoder where
  /-- The next character to be placed has at least this code point. -/
  next : Nat := 128
  bias : Nat := 72
  /-- The number of characters that have been placed. -/
  placed : Nat
  /-- The steps since the last number. -/
  steps : Nat := 0
  isFirst : Bool := true
  written : List Char := []

/-- Meets a character of the text, while those with the code point `n` are placed. -/
def Encoder.meet (n : Nat) (e : Encoder) (c : Char) : Encoder :=
  if c.toNat < n then { e with steps := e.steps + 1 }
  else if c.toNat = n then
    { e with
      bias := adapted e.steps (e.placed + 1) e.isFirst
      placed := e.placed + 1
      steps := 0
      isFirst := false
      written := e.written ++ digits e.bias e.steps }
  else e

/-- Places the characters with the code point `n`. -/
def Encoder.place (cs : List Char) (e : Encoder) (n : Nat) : Encoder :=
  let e := { e with steps := e.steps + (n - e.next) * (e.placed + 1) }
  let e := cs.foldl (Encoder.meet n) e
  { e with next := n + 1, steps := e.steps + 1 }

/-- Whether a character is an ASCII character. -/
def isAscii (c : Char) : Bool := c.toNat < 128

/-- The code points outside ASCII in a text, each once, in order. -/
def foreign (cs : List Char) : List Nat :=
  ((cs.filter (fun c => !isAscii c)).map Char.toNat).eraseDups.mergeSort

/-- The ASCII form of a text. -/
def encode (cs : List Char) : List Char :=
  let plain := cs.filter isAscii
  let e := (foreign cs).foldl (Encoder.place cs) { placed := plain.length }
  plain ++ (if plain.isEmpty then [] else ['-']) ++ e.written

/-- The digit that a character stands for. -/
def digit? (c : Char) : Option Nat :=
  if 'a' ≤ c ∧ c ≤ 'z' then some (c.toNat - 'a'.toNat)
  else if c.isDigit then some (c.toNat - '0'.toNat + 26)
  else none

/-- All numbers within an encoded text are below this limit. -/
def limit : Nat := UInt32.size

/-- How far the decoding of a text has come. -/
structure Decoder where
  /-- The code point that was placed last. -/
  point : Nat := 128
  /-- The place behind the character that was placed last. -/
  index : Nat := 0
  bias : Nat := 72
  isFirst : Bool := true
  placed : List Char
  /-- The place of the next digit of the number that is being read. -/
  place : Nat := base
  /-- What the next digit of the number counts. -/
  weight : Nat := 1
  /-- The value of the digits of the number so far. -/
  steps : Nat := 0

/-- Places the character that a number of steps leads to. -/
def Decoder.put (e : Decoder) (steps : Nat) : Option Decoder :=
  let count := e.placed.length + 1
  let point := e.point + (e.index + steps) / count
  let index := (e.index + steps) % count
  if point.isValidChar then
    some {
      point
      index := index + 1
      bias := adapted steps count e.isFirst
      isFirst := false
      placed := e.placed.insertIdx index (Char.ofNat point) }
  else none

/-- Reads a digit. A digit below the threshold ends its number. -/
def Decoder.read (e : Decoder) (c : Char) : Option Decoder := do
  let d ← digit? c
  let steps := e.steps + d * e.weight
  let t := threshold e.bias e.place
  if limit ≤ e.index + steps then none
  else if d < t then e.put steps
  else
    let weight := e.weight * (base - t)
    if limit ≤ weight then none else some { e with place := e.place + base, weight, steps }

/-- The ASCII characters of a text before the numbers that are told behind them, and the digits of
these numbers. -/
def split (cs : List Char) : List Char × List Char :=
  let digits := (cs.reverse.takeWhile (· != '-')).reverse
  let plain := cs.take (cs.length - digits.length - 1)
  if plain.isEmpty then ([], cs) else (plain, digits)

/-- The text that an ASCII form in lower case stands for. -/
def decode? (cs : List Char) : Option (List Char) := do
  let (plain, digits) := split cs
  let e ← digits.foldlM Decoder.read { placed := plain }
  if e.place = base then some e.placed else none

end StreamRelay.Punycode

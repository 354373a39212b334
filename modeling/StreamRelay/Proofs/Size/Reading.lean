import Mathlib.Tactic.IntervalCases
import StreamRelay.Proofs.Size.Rounding
import StreamRelay.Proofs.Text.Parts

/-!
# How the text of a size is read

The text of a size is a decimal numeral, a blank and the name of a unit. A reader takes it for the
number that the numeral tells, of units that are worth a power of 1024 bytes each.

Main statement: what is read of the text of a number of bytes are the tenths that it was rounded to,
in the unit that was chosen for it (`read?_text`).
-/

namespace StreamRelay.Size

/-! ## Readers -/

/-- The units that sizes are told in. -/
inductive Scale where
  | byte | kibi | mebi | gibi
deriving DecidableEq, Repr

namespace Scale

def name : Scale → String
  | byte => "B"
  | kibi => "KiB"
  | mebi => "MiB"
  | gibi => "GiB"

def power : Scale → ℕ
  | byte => 0
  | kibi => 1
  | mebi => 2
  | gibi => 3

/-- The number of bytes in a unit. -/
def worth (u : Scale) : ℕ := 1024 ^ u.power

def ofName? (name : List Char) : Option Scale :=
  [byte, kibi, mebi, gibi].find? (·.name.toList = name)

end Scale

/-- A number of units. -/
structure Amount where
  number : ℚ
  scale : Scale
deriving DecidableEq, Repr

/-- The number of bytes that an amount comes to. -/
def Amount.size (a : Amount) : ℚ := a.number * a.scale.worth

/-- The number that digits tell, if there are any and nothing else. -/
def digits? (cs : List Char) : Option ℕ :=
  if !cs.isEmpty && cs.all Char.isDigit then some (Nat.ofDigitChars 10 cs 0) else none

/-- The number that a numeral tells: digits, and decimals if there is a point. -/
def number? (cs : List Char) : Option ℚ :=
  match cs.dropWhile (· != '.') with
  | [] => do
    let whole ← digits? cs
    some whole
  | _ :: decimals => do
    let whole ← digits? (cs.takeWhile (· != '.'))
    let part ← digits? decimals
    some (whole + part / 10 ^ decimals.length)

/-- The amount that a text tells: a numeral, a blank and the name of a unit. -/
def read? (text : String) : Option Amount :=
  match text.toList.dropWhile (· != ' ') with
  | [] => none
  | _ :: name => do
    let number ← number? (text.toList.takeWhile (· != ' '))
    let scale ← Scale.ofName? name
    some ⟨number, scale⟩

/-! ## Numerals -/

variable {c : Char} {cs : List Char} {x : ℚ}

/-- A unit is read by its own name. -/
lemma ofName?_name (u : Scale) : Scale.ofName? u.name.toList = some u := by
  cases u <;> rfl

/-- A number is written in its decimal digits. -/
lemma toList_toString (n : ℕ) : (toString n).toList = Nat.toDigits 10 n := Nat.toList_repr

/-- What is no digit is not among the digits of a number. -/
lemma not_mem_toDigits (other : c.isDigit = false) (n : ℕ) : c ∉ Nat.toDigits 10 n := by
  intro mem
  rw [Nat.isDigit_of_mem_toDigits (by decide) (by decide) mem] at other
  cases other

/-- Digits are read as the number that they are the digits of. -/
lemma digits?_toDigits (n : ℕ) : digits? (Nat.toDigits 10 n) = some n := by
  have some_ : (Nat.toDigits 10 n).isEmpty = false :=
    List.isEmpty_eq_false_iff.2 Nat.toDigits_ne_nil
  have digits : (Nat.toDigits 10 n).all Char.isDigit = true :=
    List.all_eq_true.2 fun _ => Nat.isDigit_of_mem_toDigits (by decide) (by decide)
  rw [digits?, some_, digits, Nat.ofDigitChars_ten_toDigits]
  rfl

/-- A whole number is read as it is written. -/
lemma number?_toString (n : ℕ) : number? (toString n).toList = some (n : ℚ) := by
  rw [toList_toString]
  simp only [number?, Text.dropWhile_of_not_mem (not_mem_toDigits (c := '.') rfl n),
    digits?_toDigits]
  rfl

/-- A number with a decimal place is written in digits around a point. -/
lemma toList_decimal (whole part : ℕ) :
    (s!"{whole}.{part}").toList = Nat.toDigits 10 whole ++ '.' :: Nat.toDigits 10 part := by
  rw [String.toList_append, String.toList_append, toList_toString, toList_toString,
    List.append_assoc]
  rfl

/-- Tenths are read as they are written. -/
lemma number?_decimal (tenths : ℕ) :
    number? (s!"{tenths / 10}.{tenths % 10}").toList = some (tenths / 10 : ℚ) := by
  have first := not_mem_toDigits (c := '.') rfl (tenths / 10)
  have one : (Nat.toDigits 10 (tenths % 10)).length = 1 := by
    rw [Nat.toDigits_of_lt_base (Nat.mod_lt _ (by decide))]
    rfl
  have parts : (tenths : ℚ) = 10 * (tenths / 10 : ℕ) + (tenths % 10 : ℕ) := by
    exact_mod_cast (Nat.div_add_mod tenths 10).symm
  have sum : ((tenths / 10 : ℕ) : ℚ) + (tenths % 10 : ℕ) / 10 ^ 1 = tenths / 10 := by
    rw [parts]
    ring
  rw [toList_decimal, ← sum, ← one]
  simp only [number?, Text.dropWhile_of_first first, Text.takeWhile_of_first first,
    digits?_toDigits]
  rfl

/-- A number with a unit behind it is read as such. -/
lemma read?_written {numeral : String} (told : number? numeral.toList = some x)
    (solid : ' ' ∉ numeral.toList) (u : Scale) : read? s!"{numeral} {u.name}" = some ⟨x, u⟩ := by
  have whole : (s!"{numeral} {u.name}").toList = numeral.toList ++ ' ' :: u.name.toList := by
    rw [String.toList_append, String.toList_append, List.append_assoc]
    rfl
  simp only [read?, whole, Text.dropWhile_of_first solid, Text.takeWhile_of_first solid, told,
    ofName?_name]
  rfl

/-- Tenths with a unit behind them are read as such. -/
lemma read?_tenths (t : ℕ) (u : Scale) :
    read? s!"{t / 10}.{t % 10} {u.name}" = some ⟨t / 10, u⟩ := by
  apply read?_written (number?_decimal t)
  rw [toList_decimal, List.mem_append, List.mem_cons]
  rintro (whole | point | tenth)
  · exact not_mem_toDigits rfl _ whole
  · cases point
  · exact not_mem_toDigits rfl _ tenth

/-! ## Units -/

/-- The unit that is reached is the last one that the size comes to, if not the one that was begun
with. -/
lemma le_climb_iff (size unit left k : ℕ) :
    k ≤ climb size unit left ↔ k ≤ unit ∨ k ≤ unit + left ∧ 1024 ^ k ≤ size := by
  induction left generalizing unit with
  | zero =>
    rw [climb, Nat.add_zero]
    tauto
  | succ left ih =>
    rw [climb, Nat.pow_eq]
    split
    · next small =>
      -- A unit that is too large is followed by larger ones only.
      have stays : k ≤ unit + (left + 1) ∧ 1024 ^ k ≤ size → k ≤ unit := by
        rintro ⟨_, fits⟩
        by_contra up
        have grows : 1024 ^ (unit + 1) ≤ 1024 ^ k :=
          Nat.pow_le_pow_right (by decide) (not_le.1 up)
        omega
      tauto
    · next large =>
      have here : k = unit + 1 → 1024 ^ k ≤ size := by
        rintro rfl
        exact not_lt.1 large
      rw [ih]
      constructor
      · rintro (early | ⟨few, fits⟩)
        · rcases early.lt_or_eq with lt | same
          · exact .inl (Nat.le_of_lt_succ lt)
          · exact .inr ⟨by omega, here same⟩
        · exact .inr ⟨by omega, fits⟩
      · rintro (early | ⟨few, fits⟩)
        · exact .inl (by omega)
        · exact .inr ⟨by omega, fits⟩

/-- No unit is beyond GiB. -/
lemma unitIndex_le (size : ℕ) : unitIndex size ≤ 3 := by
  have reached := (le_climb_iff size 0 3 (unitIndex size)).1 le_rfl
  omega

/-- The unit is the largest one of up to 1024^3 bytes that is no larger than the size. -/
lemma le_unitIndex_iff {size k : ℕ} (pos : 0 < k) (le : k ≤ 3) :
    k ≤ unitIndex size ↔ 1024 ^ k ≤ size := by
  have reached : k ≤ unitIndex size ↔ k ≤ 0 ∨ k ≤ 0 + 3 ∧ 1024 ^ k ≤ size :=
    le_climb_iff size 0 3 k
  rw [reached, Nat.zero_add]
  constructor
  · rintro (zero | ⟨_, fits⟩)
    · omega
    · exact fits
  · intro fits
    exact .inr ⟨le, fits⟩

/-- A size below 1024 is told in bytes. -/
lemma unitIndex_eq_zero {size : ℕ} (few : size < 1024) : unitIndex size = 0 := by
  by_contra pos
  have fits := (le_unitIndex_iff Nat.one_pos (by decide)).1 (Nat.one_le_iff_ne_zero.2 pos)
  exact absurd few (not_lt.2 fits)

/-- The unit that is chosen for a size. -/
def scaleOf (size : ℕ) : Scale :=
  match unitIndex size with
  | 0 => .byte
  | 1 => .kibi
  | 2 => .mebi
  | _ => .gibi

/-- Units differ in their powers. -/
lemma Scale.power_injective : Function.Injective Scale.power := by
  intro u v same
  cases u <;> cases v <;> first | rfl | cases same

/-- The power of the unit of a size is the number of the unit. -/
lemma power_scaleOf (size : ℕ) : (scaleOf size).power = unitIndex size := by
  have le := unitIndex_le size
  unfold scaleOf
  interval_cases unitIndex size <;> rfl

/-- The name of the unit of a size is the one with its number. -/
lemma name_scaleOf (size : ℕ) : units.getD (unitIndex size) "" = (scaleOf size).name := by
  have le := unitIndex_le size
  unfold scaleOf
  interval_cases unitIndex size <;> rfl

/-! ## The text of a size -/

/-- What is shown for a size: the tenths that it is rounded to, in the unit that is chosen. -/
def shown (size : ℕ) : Amount := ⟨tenths size (unitIndex size) / 10, scaleOf size⟩

variable {bytes : UInt64}

/-- A size that is not rounded to tenths of a unit is told as it is. -/
lemma shown_of_lt {size : ℕ} (few : size < 1024) : shown size = ⟨size, .byte⟩ := by
  have unit := unitIndex_eq_zero few
  have whole : tenths size 0 = 10 * size := by
    have same := roundDiv_mul_self Nat.one_pos (10 * size)
    rwa [Nat.mul_one] at same
  have tenth : ((10 * size : ℕ) : ℚ) / 10 = size := by
    push_cast
    ring
  simp only [shown, scaleOf, unit, whole, tenth]

/-- The text of a size below 1024 is a number of bytes. -/
lemma text_of_lt (few : significant bytes.toNat < 1024) :
    text bytes = s!"{bytes.toNat} {Scale.byte.name}" := by
  have unit := unitIndex_eq_zero few
  simp only [text, unit, if_true]
  rfl

/-- The text of a larger size is a number of tenths, in its unit. -/
lemma text_of_le (many : 1024 ≤ significant bytes.toNat) :
    let size := significant bytes.toNat
    let t := tenths size (unitIndex size)
    text bytes = s!"{t / 10}.{t % 10} {(scaleOf size).name}" := by
  have unit : unitIndex (significant bytes.toNat) ≠ 0 := by
    have first := (le_unitIndex_iff Nat.one_pos (by decide)).2 many
    omega
  simp only [text, if_neg unit, name_scaleOf]

/-- What is read of the text of a size is what it was rounded to. -/
lemma read?_text (bytes : UInt64) :
    read? (text bytes) = some (shown (significant bytes.toNat)) := by
  rcases Nat.lt_or_ge (significant bytes.toNat) 1024 with few | many
  · have kept : significant bytes.toNat = bytes.toNat := by
      have few' : ¬1024 ≤ significant bytes.toNat := not_le.2 few
      rw [le_significant_iff (by decide)] at few'
      exact significant_of_lt (by omega)
    rw [text_of_lt few, shown_of_lt few, kept]
    have solid : ' ' ∉ (toString bytes.toNat).toList := by
      rw [toList_toString]
      exact not_mem_toDigits rfl _
    exact read?_written (number?_toString bytes.toNat) solid .byte
  · rw [text_of_le many]
    exact read?_tenths _ _

end StreamRelay.Size

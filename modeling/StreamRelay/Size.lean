/-!
# Sizes

The text of a number of bytes, in bytes or in a binary unit with one decimal. Before it is divided,
the number is rounded to 53 significant bits; a half goes to the even neighbour in both roundings.

Main statement: a rounded quotient is within half a unit of the exact one (`roundDiv_near`).
-/

namespace StreamRelay.Size

/-- The quotient rounded to the nearest whole number; a half goes to the even neighbour. -/
def roundDiv (n d : Nat) : Nat :=
  let q := n / d
  let twice := 2 * (n % d)
  if twice < d then q
  else if twice = d then q + q % 2
  else q + 1

/-- Twice the distance between a rounded quotient and the exact one is at most one unit. -/
theorem roundDiv_near {n d : Nat} (pos : 0 < d) :
    2 * n ≤ 2 * (roundDiv n d * d) + d ∧ 2 * (roundDiv n d * d) ≤ 2 * n + d := by
  have split := Nat.div_add_mod n d
  have small := Nat.mod_lt n pos
  have even := Nat.mod_two_eq_zero_or_one (n / d)
  rw [Nat.mul_comm] at split
  have succ : (n / d + 1) * d = n / d * d + d := by rw [Nat.succ_mul]
  unfold roundDiv
  dsimp only
  split
  · omega
  · split
    · rcases even with even | even <;> rw [even]
      · rw [Nat.add_zero]
        omega
      · rw [succ]
        omega
    · rw [succ]
      omega

/-- The number of significant bits that are kept. -/
def precision : Nat := 53

/-- The nearest number with at most `precision` significant bits. -/
def significant (n : Nat) : Nat :=
  let unit := Nat.pow 2 (n.log2 + 1 - precision)
  roundDiv n unit * unit

/-- The names of the units; each is 1024 times the one before it. -/
def units : List String := ["B", "KiB", "MiB", "GiB"]

/-- The index of the unit that is reached from the one at `unit`: as long as some are left and the
size comes to 1024 of the unit at hand, the next one is taken. -/
def climb (size unit : Nat) : Nat → Nat
  | 0 => unit
  | left + 1 => if size < Nat.pow 1024 (unit + 1) then unit else climb size (unit + 1) left

/-- The index of the unit that a size is told in. -/
def unitIndex (size : Nat) : Nat := climb size 0 (units.length - 1)

/-- The tenths of a unit that are shown for a size. -/
def tenths (size unit : Nat) : Nat := roundDiv (10 * size) (Nat.pow 1024 unit)

/-- The text of a number of bytes. -/
def text (bytes : UInt64) : String :=
  let size := significant bytes.toNat
  let unit := unitIndex size
  let name := units.getD unit ""
  if unit = 0 then s!"{bytes} {name}"
  else
    let shown := tenths size unit
    s!"{shown / 10}.{shown % 10} {name}"

end StreamRelay.Size

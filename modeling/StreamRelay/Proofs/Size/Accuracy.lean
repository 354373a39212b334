import Mathlib.Order.Bounds.Basic
import StreamRelay.Proofs.Size.Reading

/-!
# How well the text of a size tells it

The unit of a size is the largest one that fits into it, and the tenths are the nearest. Of two
sizes the larger one is never told as the smaller: one that is rounded up to the next unit is told
as the least size which that unit is chosen for.

Main statement: the text of a number of bytes tells it to the nearest tenth of its unit, and larger
numbers are told as no smaller sizes (`accurate_and_ordered`).
-/

namespace StreamRelay.Size

variable {n s s' k j : ℕ}

/-! ## The unit -/

/-- Rounding to significant bits leaves the choice of a unit alone. -/
lemma le_unitIndex_significant_iff (pos : 0 < k) (le : k ≤ 3) :
    k ≤ unitIndex (significant n) ↔ 1024 ^ k ≤ n := by
  have few : 1024 ^ k ≤ 2 ^ precision := calc
    1024 ^ k ≤ 1024 ^ 3 := Nat.pow_le_pow_right (by decide) le
    _ ≤ 2 ^ precision := by decide
  rw [le_unitIndex_iff pos le, le_significant_iff few]

/-- The unit is the largest one up to 1024^3 bytes that is no larger than the number. -/
lemma isGreatest_unitIndex (many : 1024 ≤ n) :
    IsGreatest {k | k ≤ 3 ∧ 1024 ^ k ≤ n} (unitIndex (significant n)) := by
  have pos : 0 < unitIndex (significant n) :=
    (le_unitIndex_significant_iff Nat.one_pos (by decide)).2 many
  have le := unitIndex_le (significant n)
  refine ⟨⟨le, (le_unitIndex_significant_iff pos le).1 le_rfl⟩, ?_⟩
  rintro k ⟨few, fits⟩
  rcases Nat.eq_zero_or_pos k with rfl | pos'
  · exact Nat.zero_le _
  · exact (le_unitIndex_significant_iff pos' few).2 fits

/-- A larger size has no smaller unit. -/
lemma unitIndex_mono (le : s ≤ s') : unitIndex s ≤ unitIndex s' := by
  rcases Nat.eq_zero_or_pos (unitIndex s) with zero | pos
  · rw [zero]
    exact Nat.zero_le _
  · have fits := (le_unitIndex_iff pos (unitIndex_le s)).1 le_rfl
    exact (le_unitIndex_iff pos (unitIndex_le s)).2 (fits.trans le)

/-! ## The number -/

/-- Every unit is worth something. -/
lemma unit_pos (k : ℕ) : 0 < 1024 ^ k := Nat.pow_pos (by decide)

/-- The tenths that are shown are the nearest ones. -/
lemma isNearest_tenths (s k : ℕ) : IsNearest (10 * (s / (1024 ^ k : ℕ))) (tenths s k) := by
  have nearest := isNearest_roundDiv (n := 10 * s) (unit_pos k)
  rwa [Nat.cast_mul, mul_div_assoc] at nearest

/-- What is no larger than a unit is not told as more than it. -/
lemma tenths_mul_le (up : k ≤ j) (le : s ≤ 1024 ^ j) :
    tenths s k * 1024 ^ k ≤ 10 * 1024 ^ j :=
  roundDiv_mul_le (unit_pos k) ((pow_dvd_pow _ up).mul_left _) (Nat.mul_le_mul_left _ le)

/-- What is no smaller than a unit is not told as less than it. -/
lemma le_tenths_mul (le : 1024 ^ k ≤ s) : 10 * 1024 ^ k ≤ tenths s k * 1024 ^ k :=
  le_roundDiv_mul (unit_pos k) (Nat.dvd_mul_left _ _) (Nat.mul_le_mul_left _ le)

/-! ## The size that is shown -/

/-- The size that is shown is its tenths, in bytes. -/
lemma size_shown (s : ℕ) :
    (shown s).size = (tenths s (unitIndex s) * 1024 ^ unitIndex s : ℕ) / 10 := by
  rw [Amount.size, Scale.worth, shown, power_scaleOf, Nat.cast_mul]
  ring

/-- Larger sizes are shown as no smaller ones. -/
lemma size_shown_mono (le : s ≤ s') : (shown s).size ≤ (shown s').size := by
  have tenfold : tenths s (unitIndex s) * 1024 ^ unitIndex s ≤
      tenths s' (unitIndex s') * 1024 ^ unitIndex s' := by
    rcases (unitIndex_mono le).eq_or_lt with same | up
    · rw [same]
      exact Nat.mul_le_mul_right _ (roundDiv_mono (unit_pos _) (Nat.mul_le_mul_left _ le))
    · -- The smaller size is below the unit of the larger one, and that is where both are kept to.
      have pos : 0 < unitIndex s' := Nat.zero_lt_of_lt up
      have below : s ≤ 1024 ^ unitIndex s' := by
        by_contra above
        have chosen := (le_unitIndex_iff pos (unitIndex_le s')).2 (not_le.1 above).le
        exact absurd chosen (not_le.2 up)
      calc
        tenths s (unitIndex s) * 1024 ^ unitIndex s
          ≤ 10 * 1024 ^ unitIndex s' := tenths_mul_le up.le below
        _ ≤ tenths s' (unitIndex s') * 1024 ^ unitIndex s' :=
          le_tenths_mul ((le_unitIndex_iff pos (unitIndex_le s')).1 le_rfl)
  rw [size_shown, size_shown]
  gcongr

/-! ## The text -/

/-- Whether the text of a number of bytes tells it. -/
structure Accurate (n : UInt64) : Prop where
  /-- Below 1024 bytes the text counts them. -/
  counted : n.toNat < 1024 → text n = s!"{n.toNat} B" ∧ read? (text n) = some ⟨n.toNat, .byte⟩
  /-- From there on, the unit is the largest one up to 1024^3 bytes that is no larger than the
  number, and up to 2^53 bytes the tenths are the nearest. -/
  scaled : 1024 ≤ n.toNat → ∃ (u : Scale) (t : ℕ),
    IsGreatest {k | k ≤ 3 ∧ 1024 ^ k ≤ n.toNat} u.power ∧
    text n = s!"{t / 10}.{t % 10} {u.name}" ∧ read? (text n) = some ⟨t / 10, u⟩ ∧
    (n.toNat ≤ 2 ^ 53 → IsNearest (10 * (n.toNat / u.worth)) t)

/-- The text of every number of bytes tells it. -/
lemma accurate (n : UInt64) : Accurate n where
  counted := by
    intro few
    have kept : significant n.toNat = n.toNat := significant_of_lt (by omega)
    have few' : significant n.toNat < 1024 := by rwa [kept]
    refine ⟨?_, ?_⟩
    · rw [text_of_lt few', String.append_assoc]
      rfl
    · rw [read?_text, shown_of_lt few', kept]
  scaled := by
    intro many
    have many' : 1024 ≤ significant n.toNat := (le_significant_iff (by decide)).2 many
    have greatest := isGreatest_unitIndex many
    rw [← power_scaleOf] at greatest
    refine ⟨_, _, greatest, text_of_le many', read?_text n, ?_⟩
    intro few
    have nearest : IsNearest (10 * (significant n.toNat / (scaleOf (significant n.toNat)).worth))
        (tenths (significant n.toNat) (unitIndex (significant n.toNat))) := by
      rw [Scale.worth, power_scaleOf]
      exact isNearest_tenths _ _
    rw [significant_of_le few] at nearest ⊢
    exact nearest

-- Two halves of a tenth, one of which goes down and the other one up.
example : text 1280 = "1.2 KiB" ∧ text 1792 = "1.8 KiB" := by decide

/-- The text of a number of bytes tells it to the nearest tenth of the largest unit that fits into
it, and a larger number is told as no smaller size, also where the unit changes. -/
theorem accurate_and_ordered :
    (∀ n, Accurate n) ∧ ∀ a b : UInt64, a ≤ b →
      ∃ x y, read? (text a) = some x ∧ read? (text b) = some y ∧ x.size ≤ y.size := by
  refine ⟨accurate, ?_⟩
  intro a b le
  have le' : significant a.toNat ≤ significant b.toNat :=
    significant_mono (UInt64.le_iff_toNat_le.1 le)
  exact ⟨_, _, read?_text a, read?_text b, size_shown_mono le'⟩

/-- The last size that is told in KiB is rounded up to as many bytes as one MiB has. -/
theorem accurate_and_ordered_lastKibi :
    (1048575 : UInt64) ≤ 1048576 ∧ text 1048575 = "1024.0 KiB" ∧ text 1048576 = "1.0 MiB" ∧
      Accurate 1048575 ∧ ∃ x y, read? (text 1048575) = some x ∧ read? (text 1048576) = some y ∧
        x.size ≤ y.size := by
  obtain ⟨accurate, ordered⟩ := accurate_and_ordered
  have le : (1048575 : UInt64) ≤ 1048576 := by decide
  exact ⟨le, by decide, by decide, accurate _, ordered _ _ le⟩

end StreamRelay.Size

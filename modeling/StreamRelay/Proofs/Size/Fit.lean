import Mathlib.Tactic.NormNum
import StreamRelay.Proofs.Size.Accuracy

/-!
# Whether the number shown fits its unit

The unit is chosen for the size and not for the number that is shown, and that one is rounded. So a
size less than a twentieth of a unit below the next larger one is shown as 1024.0 of its unit.

Main statement: these are the only sizes below GiB whose number does not fit
(`fits_iff_not_brims`).
-/

namespace StreamRelay.Size

variable {s n : ℕ} {u : Scale}

/-- Whether the number that a text shows is less than what the next larger unit is worth. There is
none behind GiB. -/
def Fits (text : String) : Prop :=
  ∃ a, read? text = some a ∧ (a.scale ≠ .gibi → a.number < 1024)

/-- Whether a size is below 1024 of a unit by no more than half of a tenth. -/
structure Brims (u : Scale) (n : ℕ) : Prop where
  above : (1024 - 1 / 20 : ℚ) * u.worth ≤ n
  below : n < 1024 * u.worth

/-! ## The unit -/

/-- A size from one of a unit up to 1024 of it is told in this unit. -/
lemma scaleOf_eq (ne : u ≠ .gibi) (low : u.worth ≤ s) (high : s < 1024 * u.worth) :
    scaleOf s = u := by
  have few : u.power + 1 ≤ 3 := by
    cases u with
    | gibi => exact absurd rfl ne
    | _ => decide
  apply Scale.power_injective
  rw [power_scaleOf]
  apply le_antisymm
  · rw [Scale.worth, ← Nat.pow_succ', ← not_le, ← le_unitIndex_iff (Nat.succ_pos _) few] at high
    exact Nat.le_of_lt_succ (not_le.1 high)
  · rcases Nat.eq_zero_or_pos u.power with zero | pos
    · rw [zero]
      exact Nat.zero_le _
    · exact (le_unitIndex_iff pos (Nat.le_of_succ_le few)).2 low

/-- The number of a unit other than GiB is below that of GiB. -/
lemma unitIndex_lt_of_ne (ne : scaleOf s ≠ .gibi) : unitIndex s < 3 := by
  apply lt_of_le_of_ne (unitIndex_le s)
  intro last
  exact ne (by simp only [scaleOf, last])

/-- A size that is told in another unit than GiB is below 1024 of it. -/
lemma lt_of_scaleOf_ne (ne : scaleOf s ≠ .gibi) : s < 1024 * (scaleOf s).worth := by
  by_contra above
  rw [Scale.worth, power_scaleOf, ← Nat.pow_succ', not_lt] at above
  have chosen := (le_unitIndex_iff (Nat.succ_pos _) (unitIndex_lt_of_ne ne)).2 above
  exact absurd chosen (Nat.not_succ_le_self _)

/-- What is told in a smaller unit than GiB has few bits. -/
lemma significant_of_scaleOf_ne (ne : scaleOf (significant n) ≠ .gibi) : significant n = n := by
  have few := not_le.2 (unitIndex_lt_of_ne ne)
  rw [le_unitIndex_significant_iff (by decide) le_rfl, not_le] at few
  exact significant_of_lt few

/-! ## The number -/

/-- A number that is rounded to tenths stays below 1024 up to the middle between it and the tenth
before it, which is rounded up since 1024 has an even number of tenths. -/
lemma number_shown_lt_iff (s : ℕ) :
    (shown s).number < 1024 ↔ (s : ℚ) < (1024 - 1 / 20) * (scaleOf s).worth := by
  have nearest := isNearest_tenths s (unitIndex s)
  have even : Even (10240 : ℤ) := by decide
  have pos : (0 : ℚ) < (1024 ^ unitIndex s : ℕ) := by exact_mod_cast unit_pos _
  calc
    (shown s).number < 1024 ↔ ((tenths s (unitIndex s) : ℤ) : ℚ) < (10240 : ℤ) := by
      rw [shown, div_lt_iff₀ (by norm_num)]
      norm_num
    _ ↔ 2 * (10 * (s / (1024 ^ unitIndex s : ℕ))) < 2 * ((10240 : ℤ) : ℚ) - 1 := by
      rw [Int.cast_lt, nearest.lt_iff_of_even even]
    _ ↔ (s : ℚ) / (1024 ^ unitIndex s : ℕ) < 1024 - 1 / 20 := by
      constructor <;> intro lt <;> push_cast at lt ⊢ <;> linarith
    _ ↔ (s : ℚ) < (1024 - 1 / 20) * (scaleOf s).worth := by
      rw [div_lt_iff₀ pos, Scale.worth, power_scaleOf]

/-- A text fits if the number that is shown does, and only then. -/
lemma fits_text_iff (n : UInt64) : Fits (text n) ↔
    (scaleOf (significant n.toNat) ≠ .gibi → (shown (significant n.toNat)).number < 1024) := by
  rw [Fits, read?_text]
  constructor
  · rintro ⟨a, read, fits⟩
    cases read
    exact fits
  · intro fits
    exact ⟨_, rfl, fits⟩

/-! ## Sizes that are shown as 1024.0 -/

namespace Brims

/-- A size that brims has few bits. -/
lemma kept (brims : Brims u n) (ne : u ≠ .gibi) : significant n = n := by
  have few : 1024 * u.worth ≤ 1024 ^ 3 := by
    cases u with
    | gibi => exact absurd rfl ne
    | _ => decide
  exact significant_of_lt (brims.below.trans_le few)

/-- A size that brims in a unit is told in this unit. -/
lemma scaleOf_eq (brims : Brims u n) (ne : u ≠ .gibi) : scaleOf n = u := by
  have above := brims.above
  have low : (u.worth : ℚ) ≤ n := by
    have pos : (0 : ℚ) ≤ u.worth := Nat.cast_nonneg _
    linarith
  exact Size.scaleOf_eq ne (by exact_mod_cast low) brims.below

/-- A number of bytes is not rounded to tenths. -/
lemma mem (brims : Brims u n) (ne : u ≠ .gibi) : u ∈ [Scale.kibi, .mebi] := by
  cases u with
  | gibi => exact absurd rfl ne
  | kibi | mebi => decide
  | byte =>
    have above := brims.above
    have below : (n : ℚ) + 1 ≤ 1024 := by exact_mod_cast brims.below
    rw [Scale.worth, Scale.power, pow_zero, Nat.cast_one] at above
    linarith

/-- The number that is shown of a size that brims is not below 1024. -/
lemma not_number_lt (brims : Brims u n) (ne : u ≠ .gibi) : ¬(shown n).number < 1024 := by
  rw [number_shown_lt_iff, brims.scaleOf_eq ne]
  exact brims.above.not_gt

/-- A size that brims is rounded up to 1024 of its unit. -/
lemma tenths_eq (brims : Brims u n) (ne : u ≠ .gibi) : tenths n (unitIndex n) = 10240 := by
  have full := brims.not_number_lt ne
  have unit := power_scaleOf n
  rw [brims.scaleOf_eq ne] at unit
  apply le_antisymm
  · have below : n ≤ 1024 ^ (unitIndex n + 1) := by
      have below := brims.below
      rw [Scale.worth, unit, ← Nat.pow_succ'] at below
      exact below.le
    have le := tenths_mul_le (Nat.le_succ (unitIndex n)) below
    rw [Nat.pow_succ', ← Nat.mul_assoc] at le
    exact Nat.le_of_mul_le_mul_right le (unit_pos _)
  · rw [shown, div_lt_iff₀ (by norm_num), not_lt] at full
    norm_num at full
    exact_mod_cast full

/-- A size that brims is told as 1024.0 of its unit. -/
lemma text_eq {n : UInt64} (brims : Brims u n.toNat) (ne : u ≠ .gibi) :
    text n = s!"1024.0 {u.name}" := by
  have kept := brims.kept ne
  have unit := power_scaleOf n.toNat
  rw [brims.scaleOf_eq ne] at unit
  have many : 1024 ≤ significant n.toNat := by
    have scaled : ∀ u ∈ [Scale.kibi, .mebi], 1 ≤ u.power := by decide
    rw [kept]
    exact (le_unitIndex_iff Nat.one_pos (by decide)).1 (unit ▸ scaled u (brims.mem ne))
  have told := text_of_le many
  simp only [kept, brims.tenths_eq ne, brims.scaleOf_eq ne] at told
  rw [told]
  rfl

end Brims

/-- The number shown fits its unit, except that sizes within a twentieth of a KiB or MiB below the
next unit are shown as 1024.0 of it. -/
theorem fits_iff_not_brims (n : UInt64) :
    (Fits (text n) ↔ ∀ u ∈ [Scale.kibi, .mebi], ¬Brims u n.toNat) ∧
      ∀ u ∈ [Scale.kibi, .mebi], Brims u n.toNat → text n = s!"1024.0 {u.name}" := by
  have ne : ∀ u ∈ [Scale.kibi, .mebi], u ≠ .gibi := by decide
  refine ⟨?fits, fun u mem brims => brims.text_eq (ne u mem)⟩
  case fits =>
    rw [fits_text_iff]
    constructor
    · intro fits u mem brims
      rw [brims.kept (ne u mem), brims.scaleOf_eq (ne u mem)] at fits
      exact brims.not_number_lt (ne u mem) (fits (ne u mem))
    · intro free small
      have kept := significant_of_scaleOf_ne small
      rw [kept] at small ⊢
      by_contra full
      rw [number_shown_lt_iff, not_lt] at full
      have brims : Brims (scaleOf n.toNat) n.toNat := ⟨full, lt_of_scaleOf_ne small⟩
      exact free _ (brims.mem small) brims

/-- The least size whose number does not fit into MiB. -/
theorem fits_iff_not_brims_firstMebi :
    Brims .mebi 1073689396 ∧ text 1073689396 = "1024.0 MiB" ∧ ¬Fits (text 1073689396) := by
  obtain ⟨fits, full⟩ := fits_iff_not_brims 1073689396
  have mem : Scale.mebi ∈ [Scale.kibi, .mebi] := by decide
  have brims : Brims .mebi 1073689396 := by
    refine ⟨?_, by decide⟩
    rw [Scale.worth, Scale.power]
    norm_num
  exact ⟨brims, full _ mem brims, fun small => fits.1 small _ mem brims⟩

/-- The number shown does not always fit: the last size that is told in KiB is told as 1024.0. -/
theorem not_fits_lastKibi : text 1048575 = "1024.0 KiB" ∧ ¬∀ n, Fits (text n) := by
  have told : text 1048575 = "1024.0 KiB" := by decide
  refine ⟨told, ?_⟩
  intro fits
  have read : read? "1024.0 KiB" = some ⟨(10240 : ℕ) / 10, .kibi⟩ := read?_tenths 10240 .kibi
  obtain ⟨a, read', small⟩ := fits 1048575
  rw [told, read] at read'
  cases read'
  have less := small (by decide)
  norm_num at less

end StreamRelay.Size

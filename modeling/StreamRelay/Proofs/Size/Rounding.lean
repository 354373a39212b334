import Mathlib.Algebra.Order.Ring.Abs
import Mathlib.Algebra.Order.Field.Rat
import Mathlib.Algebra.Ring.Int.Parity
import Mathlib.Tactic.GCongr
import Mathlib.Tactic.Lemma
import Mathlib.Tactic.Linarith
import Mathlib.Tactic.LinearCombination
import Mathlib.Tactic.Qify
import Mathlib.Tactic.Ring
import StreamRelay.Size

/-!
# How sizes are rounded

A number is rounded to the nearest whole one, and a number in the middle between two of them to the
even one. Rounding to so many significant bits is rounding to a multiple of a spacing, which grows
with the number.

Main statements: a rounded quotient is the nearest whole number (`isNearest_roundDiv`), both kinds
of rounding keep the order (`IsNearest.mono`, `significant_mono`), and numbers of up to 53 bits are
not changed by the second one (`significant_of_le`).
-/

namespace StreamRelay.Size

/-- Whether `m` is the whole number nearest to `q`, and the even one of two that are as near. -/
structure IsNearest (q : ℚ) (m : ℤ) : Prop where
  near : ∀ j : ℤ, |q - m| ≤ |q - j|
  even : ∀ j : ℤ, j ≠ m → |q - m| = |q - j| → Even m

variable {q q' : ℚ} {m m' j : ℤ} {n n' d k : ℕ}

/-! ## The nearest whole number -/

/-- Which of two numbers is nearer to a third is decided by the sign of a product. -/
lemma abs_sub_le_abs_sub_iff {a b : ℚ} :
    |q - a| ≤ |q - b| ↔ 0 ≤ (b - a) * (a + b - 2 * q) := by
  have squares : (q - b) ^ 2 - (q - a) ^ 2 = (b - a) * (a + b - 2 * q) := by ring
  rw [← sq_le_sq, ← sub_nonneg, squares]

/-- A number is rounded to one that is at most a half away, and a half to an even one. -/
lemma isNearest_iff : IsNearest q m ↔
    2 * (m : ℚ) - 1 ≤ 2 * q ∧ 2 * q ≤ 2 * m + 1 ∧
      (2 * q = 2 * m - 1 ∨ 2 * q = 2 * m + 1 → Even m) := by
  constructor
  · rintro ⟨near, even⟩
    have below := abs_sub_le_abs_sub_iff.1 (near (m - 1))
    have above := abs_sub_le_abs_sub_iff.1 (near (m + 1))
    push_cast at below above
    refine ⟨by linarith, by linarith, ?_⟩
    rintro (tie | tie)
    · apply even (m - 1) (by omega)
      apply le_antisymm (near _)
      rw [abs_sub_le_abs_sub_iff]
      push_cast
      linarith
    · apply even (m + 1) (by omega)
      apply le_antisymm (near _)
      rw [abs_sub_le_abs_sub_iff]
      push_cast
      linarith
  · rintro ⟨below, above, even⟩
    -- The middle between `m` and another whole number is at least a half away from `m`.
    have apart : ∀ j : ℤ, j ≠ m →
        (j : ℚ) - m ≤ -1 ∧ (m : ℚ) + j ≤ 2 * m - 1 ∨ 1 ≤ (j : ℚ) - m ∧ 2 * (m : ℚ) + 1 ≤ m + j := by
      intro j other
      rcases lt_or_gt_of_ne other with lt | lt
      · have le : (j : ℚ) + 1 ≤ m := by exact_mod_cast lt
        exact .inl ⟨by linarith, by linarith⟩
      · have le : (m : ℚ) + 1 ≤ j := by exact_mod_cast lt
        exact .inr ⟨by linarith, by linarith⟩
    refine ⟨fun j => ?_, fun j other tie => ?_⟩
    · rw [abs_sub_le_abs_sub_iff]
      by_cases same : j = m
      · rw [same, sub_self, zero_mul]
      · rcases apart j same with ⟨far, middle⟩ | ⟨far, middle⟩
        · exact mul_nonneg_of_nonpos_of_nonpos (by linarith) (by linarith)
        · exact mul_nonneg (by linarith) (by linarith)
    · apply even
      have back := abs_sub_le_abs_sub_iff.1 tie.ge
      rcases apart j other with ⟨far, middle⟩ | ⟨far, middle⟩
      · have tight := nonneg_of_mul_nonneg_right back (by linarith)
        exact .inl (by linarith)
      · have tight := nonpos_of_mul_nonneg_right back (by linarith)
        exact .inr (by linarith)

/-- A whole number is nearest to itself. -/
lemma isNearest_intCast (m : ℤ) : IsNearest m m :=
  isNearest_iff.2 ⟨by linarith, by linarith, by rintro (tie | tie) <;> linarith⟩

/-- Rounding keeps the order. -/
lemma IsNearest.mono (nearest : IsNearest q m) (nearest' : IsNearest q' m') (le : q ≤ q') :
    m ≤ m' := by
  obtain ⟨below, _, even⟩ := isNearest_iff.1 nearest
  obtain ⟨_, above', even'⟩ := isNearest_iff.1 nearest'
  by_contra lt
  -- Two numbers that change places would both have to be halves, next to each other, and even.
  have next : (m' : ℚ) + 1 ≤ m := by exact_mod_cast not_le.1 lt
  have same : m = m' + 1 := by
    have : (m : ℚ) = m' + 1 := by linarith
    exact_mod_cast this
  have odd := even (.inl (by linarith))
  rw [same, Int.even_add_one] at odd
  exact odd (even' (.inr (by linarith)))

/-- No two whole numbers are nearest, since of two that are as near the even one counts. -/
lemma IsNearest.unique (nearest : IsNearest q m) (nearest' : IsNearest q m') : m = m' :=
  le_antisymm (nearest.mono nearest' le_rfl) (nearest'.mono nearest le_rfl)

/-- What is a half below an even number is rounded up. -/
lemma IsNearest.lt_iff_of_even (nearest : IsNearest q m) (even : Even j) :
    m < j ↔ 2 * q < 2 * j - 1 := by
  obtain ⟨below, above, tie⟩ := isNearest_iff.1 nearest
  constructor
  · intro lt
    have le : (m : ℚ) + 1 ≤ j := by exact_mod_cast lt
    apply lt_of_le_of_ne (by linarith)
    intro half
    have next : j = m + 1 := by
      have : (j : ℚ) = m + 1 := by linarith
      exact_mod_cast this
    rw [next, Int.even_add_one] at even
    exact even (tie (.inr (by linarith)))
  · intro lt
    by_contra le
    have le : (j : ℚ) ≤ m := by exact_mod_cast not_lt.1 le
    linarith

/-! ## Rounded quotients -/

/-- A quotient is rounded down or up, and at a half to an even number. -/
lemma roundDiv_cases (n d : ℕ) :
    2 * (n % d) < d ∧ roundDiv n d = n / d ∨
      2 * (n % d) = d ∧ roundDiv n d = n / d + n / d % 2 ∨
        d < 2 * (n % d) ∧ roundDiv n d = n / d + 1 := by
  unfold roundDiv
  rcases Nat.lt_trichotomy (2 * (n % d)) d with below | half | above
  · exact .inl ⟨below, if_pos below⟩
  · exact .inr (.inl ⟨half, by simp [half]⟩)
  · exact .inr (.inr ⟨above, by simp [above.not_gt, above.ne']⟩)

/-- What a half is rounded to is even. -/
lemma even_roundDiv (pos : 0 < d)
    (half : 2 * n + d = 2 * (roundDiv n d * d) ∨ 2 * n = 2 * (roundDiv n d * d) + d) :
    Even (roundDiv n d) := by
  have parts := Nat.div_add_mod n d
  have small := Nat.mod_lt n pos
  have succ : (n / d + 1) * d = n / d * d + d := Nat.succ_mul _ _
  rw [Nat.mul_comm] at parts
  rw [Nat.even_iff]
  rcases roundDiv_cases n d with ⟨below, rounded⟩ | ⟨_, rounded⟩ | ⟨above, rounded⟩
  · rw [rounded] at half
    omega
  · omega
  · rw [rounded, succ] at half
    omega

/-- A rounded quotient is the nearest whole number. -/
lemma isNearest_roundDiv (pos : 0 < d) : IsNearest (n / d) (roundDiv n d) := by
  obtain ⟨above, below⟩ := roundDiv_near (n := n) pos
  have pos' : (0 : ℚ) < d := by exact_mod_cast pos
  have quotient : (n : ℚ) / d * d = n := div_mul_cancel₀ _ pos'.ne'
  qify at above below
  rw [isNearest_iff, Int.cast_natCast, Int.even_coe_nat]
  refine ⟨?_, ?_, ?_⟩
  · apply le_of_mul_le_mul_right _ pos'
    linarith
  · apply le_of_mul_le_mul_right _ pos'
    linarith
  · intro tie
    apply even_roundDiv pos
    qify
    rw [← quotient]
    rcases tie with tie | tie
    · left
      linear_combination d * tie
    · right
      linear_combination d * tie

/-- A larger quotient is not rounded to less. -/
lemma roundDiv_mono (pos : 0 < d) (le : n ≤ n') : roundDiv n d ≤ roundDiv n' d := by
  have le' : (n : ℚ) / d ≤ n' / d := by gcongr
  exact_mod_cast (isNearest_roundDiv pos).mono (isNearest_roundDiv pos) le'

/-- A multiple of the divisor is rounded to itself. -/
lemma roundDiv_mul_self (pos : 0 < d) (k : ℕ) : roundDiv (k * d) d = k := by
  have pos' : (d : ℚ) ≠ 0 := by exact_mod_cast pos.ne'
  have nearest := isNearest_roundDiv (n := k * d) pos
  rw [Nat.cast_mul, mul_div_cancel_right₀ _ pos'] at nearest
  exact_mod_cast nearest.unique (isNearest_intCast k)

/-- Nothing is rounded up past a multiple of the divisor. -/
lemma roundDiv_mul_le (pos : 0 < d) (dvd : d ∣ k) (le : n ≤ k) : roundDiv n d * d ≤ k := by
  obtain ⟨c, rfl⟩ := dvd
  have le' := roundDiv_mono pos le
  rw [Nat.mul_comm d, roundDiv_mul_self pos] at le'
  rw [Nat.mul_comm d]
  exact Nat.mul_le_mul_right d le'

/-- Nothing is rounded down past a multiple of the divisor. -/
lemma le_roundDiv_mul (pos : 0 < d) (dvd : d ∣ k) (le : k ≤ n) : k ≤ roundDiv n d * d := by
  obtain ⟨c, rfl⟩ := dvd
  have le' := roundDiv_mono pos le
  rw [Nat.mul_comm d, roundDiv_mul_self pos] at le'
  rw [Nat.mul_comm d]
  exact Nat.mul_le_mul_right d le'

/-! ## Significant bits -/

/-- What the numbers with as many bits as `n` are rounded to multiples of. -/
def spacing (n : ℕ) : ℕ := 2 ^ (n.log2 + 1 - precision)

/-- The spacing is never zero. -/
lemma spacing_pos (n : ℕ) : 0 < spacing n := Nat.two_pow_pos _

/-- A number is rounded to a multiple of its spacing. -/
lemma significant_eq (n : ℕ) : significant n = roundDiv n (spacing n) * spacing n := rfl

/-- A number is not rounded up past a multiple of its spacing. -/
lemma significant_le (dvd : spacing n ∣ k) (le : n ≤ k) : significant n ≤ k :=
  roundDiv_mul_le (spacing_pos n) dvd le

/-- A number is not rounded down past a multiple of its spacing. -/
lemma le_significant (dvd : spacing n ∣ k) (le : k ≤ n) : k ≤ significant n :=
  le_roundDiv_mul (spacing_pos n) dvd le

/-- A number is not rounded up past the next power of two. -/
lemma significant_le_two_pow (n : ℕ) : significant n ≤ 2 ^ (n.log2 + 1) :=
  significant_le (pow_dvd_pow 2 (Nat.sub_le _ _)) Nat.lt_log2_self.le

/-- A number is not rounded down past the power of two below it. -/
lemma two_pow_le_significant (pos : n ≠ 0) : 2 ^ n.log2 ≤ significant n := by
  have few : n.log2 + 1 - precision ≤ n.log2 := by
    unfold precision
    omega
  exact le_significant (pow_dvd_pow 2 few) (Nat.log2_self_le pos)

/-- Rounding to significant bits keeps the order, also where the spacing grows. -/
lemma significant_mono (le : n ≤ n') : significant n ≤ significant n' := by
  rcases lt_trichotomy n.log2 n'.log2 with lt | same | gt
  · have pos : n' ≠ 0 := by
      rintro rfl
      exact absurd lt (Nat.not_lt_zero _)
    calc
      significant n ≤ 2 ^ (n.log2 + 1) := significant_le_two_pow n
      _ ≤ 2 ^ n'.log2 := Nat.pow_le_pow_right Nat.two_pos lt
      _ ≤ significant n' := two_pow_le_significant pos
  · rw [significant_eq, significant_eq, spacing, spacing, same]
    exact Nat.mul_le_mul_right _ (roundDiv_mono (Nat.two_pow_pos _) le)
  · have pos : n ≠ 0 := by
      rintro rfl
      exact absurd gt (Nat.not_lt_zero _)
    have shrinks : n' < n := calc
      n' < 2 ^ (n'.log2 + 1) := Nat.lt_log2_self
      _ ≤ 2 ^ n.log2 := Nat.pow_le_pow_right Nat.two_pos gt
      _ ≤ n := Nat.log2_self_le pos
    exact absurd le shrinks.not_ge

/-- A number of few bits is a multiple of its spacing. -/
lemma spacing_dvd (few : n ≤ 2 ^ precision) : spacing n ∣ n := by
  rcases few.lt_or_eq with lt | rfl
  · have short : n.log2 < precision := by
      by_cases pos : n = 0
      · rw [pos]
        decide
      · exact (Nat.log2_lt pos).2 lt
    rw [spacing, Nat.sub_eq_zero_of_le short]
    exact one_dvd n
  · apply pow_dvd_pow
    rw [Nat.log2_two_pow]
    decide

/-- Numbers of few bits are kept. -/
lemma significant_of_le (few : n ≤ 2 ^ precision) : significant n = n :=
  le_antisymm (significant_le (spacing_dvd few) le_rfl) (le_significant (spacing_dvd few) le_rfl)

/-- Numbers below 1024^3 are kept. -/
lemma significant_of_lt (few : n < 1024 ^ 3) : significant n = n := by
  apply significant_of_le
  unfold precision
  omega

/-- No number is rounded past one of few bits. -/
lemma le_significant_iff (few : k ≤ 2 ^ precision) : k ≤ significant n ↔ k ≤ n := by
  constructor
  · intro le
    by_contra lt
    rw [significant_of_le (by omega)] at le
    exact lt le
  · intro le
    rw [← significant_of_le few]
    exact significant_mono le

end StreamRelay.Size

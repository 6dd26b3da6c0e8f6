import Mathlib
import Literate.Decimal.Double

/-!
# What is rounded to zero and to infinity

A quotient that is not negative is rounded to zero up to half the least double, which is `2 ^ -1074`;
the tie goes to zero.  It is rounded to infinity from half a unit above the greatest double on, which is
`(2 ^ 53 - 1) · 2 ^ 971`; the tie goes to the even mantissa, which has 54 bits.  Everything between is
rounded to a finite number that is not zero.

* `roundDiv_eq_zero_iff`, `roundDiv_eq_succ_iff`: when a quotient is rounded to zero, and up to an even
  integer.
* `Double.exponentFor_spec`: how large a quotient is at its exponent.
* `Double.ofRatio_cases`: what a quotient is rounded to.
* `Double.ofInt_isInfinite_iff`, `Double.ofInt_isZero_iff`: the integers that are rounded to an infinity
  and to zero.
-/

namespace Literate

/-! ## Rounding to an integer -/

section

variable {num den : ℕ}

/-- A quotient is rounded to zero up to a half. -/
theorem roundDiv_eq_zero_iff (hden : 0 < den) : roundDiv num den = 0 ↔ 2 * num ≤ den := by
  have hmod : num % den < den := Nat.mod_lt _ hden
  have hdiv : den * (num / den) + num % den = num := Nat.div_add_mod ..
  unfold roundDiv
  rcases Nat.eq_zero_or_pos (num / den) with hzero | hpos
  · rw [hzero, mul_zero, zero_add] at hdiv
    rw [hzero, hdiv]
    dsimp only
    split_ifs with hbelow habove heven
    · exact iff_of_true rfl (by omega)
    · exact iff_of_false (by simp) (by omega)
    · exact iff_of_true rfl (by omega)
    · exact absurd rfl heven
  · have hle : den ≤ den * (num / den) := Nat.le_mul_of_pos_right _ hpos
    refine iff_of_false (fun hround => ?_) (by omega)
    dsimp only at hround
    split_ifs at hround <;> omega

/-- A quotient below an even integer is rounded up to it from half a unit below on. -/
theorem roundDiv_eq_succ_iff {k : ℕ} (hden : 0 < den) (hk : k % 2 = 1)
    (hnum : num < (k + 1) * den) : roundDiv num den = k + 1 ↔ (2 * k + 1) * den ≤ 2 * num := by
  have hmod : num % den < den := Nat.mod_lt _ hden
  have hdiv : den * (num / den) + num % den = num := Nat.div_add_mod ..
  have hle : num / den ≤ k := Nat.lt_succ_iff.mp (Nat.div_lt_of_lt_mul (by rwa [mul_comm]))
  have hsplit : (2 * k + 1) * den = 2 * (den * k) + den := by ring
  rw [hsplit]
  unfold roundDiv
  rcases Nat.lt_or_eq_of_le hle with hlt | heq
  · -- below the last unit neither holds
    have hfar : den * (num / den) + den ≤ den * k := by
      rw [← Nat.mul_succ]
      exact Nat.mul_le_mul_left _ hlt
    refine iff_of_false (fun hround => ?_) (by omega)
    dsimp only at hround
    split_ifs at hround <;> omega
  · rw [heq] at hdiv ⊢
    dsimp only
    split_ifs <;> omega

end

namespace Double

/-! ## Exponents -/

section

variable {num den : ℕ}

/-- The logarithms give the quotient up to a factor of two. -/
theorem log2_bounds (hnum : num ≠ 0) (hden : den ≠ 0) :
    (2 : ℚ) ^ ((num.log2 : ℤ) - den.log2 - 1) < num / den ∧
      (num : ℚ) / den < 2 ^ ((num.log2 : ℤ) - den.log2 + 1) := by
  have hlog : ∀ {n : ℕ}, n ≠ 0 → (2 : ℚ) ^ (n.log2 : ℤ) ≤ n ∧ (n : ℚ) < 2 ^ ((n.log2 : ℤ) + 1) := by
    intro n hn
    constructor
    · exact_mod_cast Nat.log2_self_le hn
    · exact_mod_cast (Nat.log2_lt hn).mp (Nat.lt_succ_self _)
  obtain ⟨hnumle, hnumlt⟩ := hlog hnum
  obtain ⟨hdenle, hdenlt⟩ := hlog hden
  have hpos : (0 : ℚ) < den := by positivity
  have htwo : (2 : ℚ) ≠ 0 := by norm_num
  constructor
  · rw [lt_div_iff₀ hpos]
    calc (2 : ℚ) ^ ((num.log2 : ℤ) - den.log2 - 1) * den
        < 2 ^ ((num.log2 : ℤ) - den.log2 - 1) * 2 ^ ((den.log2 : ℤ) + 1) := by gcongr
      _ = 2 ^ (num.log2 : ℤ) := by rw [← zpow_add₀ htwo]; congr 1; omega
      _ ≤ num := hnumle
  · rw [div_lt_iff₀ hpos]
    calc (num : ℚ) < 2 ^ ((num.log2 : ℤ) + 1) := hnumlt
      _ = 2 ^ ((num.log2 : ℤ) - den.log2 + 1) * 2 ^ (den.log2 : ℤ) := by
        rw [← zpow_add₀ htwo]; congr 1; omega
      _ ≤ 2 ^ ((num.log2 : ℤ) - den.log2 + 1) * den := by gcongr

theorem twoTo_of_nonneg {q : ℤ} (hq : 0 ≤ q) : (twoTo q : ℚ) = 2 ^ q := by
  obtain ⟨n, rfl⟩ := Int.eq_ofNat_of_zero_le hq
  simp [twoTo]

theorem scale_snd_pos (hden : 0 < den) (q : ℤ) : 0 < (scale num den q).2 := by
  unfold scale
  split_ifs
  · exact Nat.mul_pos hden (Nat.two_pow_pos _)
  · exact hden

/-- Numerator and denominator are scaled alike. -/
theorem exists_scale_eq (num : ℕ) (hden : 0 < den) (q : ℤ) :
    ∃ c : ℚ, 0 < c ∧ ((scale num den q).1 : ℚ) = c * (num / den) ∧
      ((scale num den q).2 : ℚ) = c * 2 ^ q := by
  have hpos : (0 : ℚ) < den := Nat.cast_pos.mpr hden
  unfold scale
  split_ifs with hq
  · refine ⟨den, hpos, (mul_div_cancel₀ _ hpos.ne').symm, ?_⟩
    rw [Nat.cast_mul, twoTo_of_nonneg hq]
  · have htwo : (0 : ℚ) < 2 ^ (-q) := by positivity
    refine ⟨den * 2 ^ (-q), mul_pos hpos htwo, ?_, ?_⟩
    · rw [Nat.cast_mul, twoTo_of_nonneg (by omega)]
      field_simp
    · rw [mul_assoc, ← zpow_add₀ (by norm_num), neg_add_cancel, zpow_zero, mul_one]

/-- Comparing multiples of the scaled numerator and denominator is comparing the quotient. -/
theorem scale_le_iff (hden : 0 < den) (a b : ℕ) (q : ℤ) :
    a * (scale num den q).2 ≤ b * (scale num den q).1 ↔ (a : ℚ) * 2 ^ q ≤ b * (num / den) := by
  obtain ⟨c, hc, hn, hd⟩ := exists_scale_eq num hden q
  rw [← Nat.cast_le (α := ℚ), Nat.cast_mul, Nat.cast_mul, hn, hd, mul_left_comm, mul_left_comm _ c,
    mul_le_mul_iff_right₀ hc]

theorem le_scale_iff (hden : 0 < den) (a b : ℕ) (q : ℤ) :
    b * (scale num den q).1 ≤ a * (scale num den q).2 ↔ (b : ℚ) * (num / den) ≤ a * 2 ^ q := by
  obtain ⟨c, hc, hn, hd⟩ := exists_scale_eq num hden q
  rw [← Nat.cast_le (α := ℚ), Nat.cast_mul, Nat.cast_mul, hn, hd, mul_left_comm, mul_left_comm _ c,
    mul_le_mul_iff_right₀ hc]

theorem leastMantissa_mul (q : ℤ) : (leastMantissa : ℚ) * 2 ^ q = 2 ^ (q + 52) := by
  have hlead : (leastMantissa : ℚ) = 2 ^ (52 : ℤ) := by norm_num [leastMantissa]
  rw [hlead, ← zpow_add₀ (by norm_num), add_comm]

/-- A quotient at its exponent: below 53 bits, and at least 52 bits unless the exponent is the least
one. -/
theorem exponentFor_spec (hnum : num ≠ 0) (hden : 0 < den) :
    minExponent ≤ exponentFor num den ∧
      (num : ℚ) / den < 2 ^ (exponentFor num den + 53) ∧
      (minExponent < exponentFor num den → (2 : ℚ) ^ (exponentFor num den + 52) ≤ num / den) := by
  obtain ⟨hlow, hhigh⟩ := log2_bounds hnum hden.ne'
  unfold exponentFor
  dsimp only
  have hlead : ∀ q, (scale num den q).1 < leastMantissa * (scale num den q).2 ↔
      (num : ℚ) / den < 2 ^ (q + 52) := by
    intro q
    rw [← not_le, ← one_mul (scale num den q).1, scale_le_iff hden, leastMantissa_mul, Nat.cast_one,
      one_mul, not_le]
  simp only [hlead]
  generalize hguess : (num.log2 : ℤ) - den.log2 - 52 = guess
  have hlow' : (2 : ℚ) ^ (guess + 51) < num / den := by
    have : guess + 51 = (num.log2 : ℤ) - den.log2 - 1 := by omega
    rwa [this]
  have hhigh' : (num : ℚ) / den < 2 ^ (guess + 53) := by
    have : guess + 53 = (num.log2 : ℤ) - den.log2 + 1 := by omega
    rwa [this]
  -- the exponent before the least one is put in its place
  obtain ⟨q, hq, hqlow, hqhigh⟩ : ∃ q, (if (num : ℚ) / den < 2 ^ (guess + 52) then guess - 1
      else guess) = q ∧ (2 : ℚ) ^ (q + 52) ≤ num / den ∧ (num : ℚ) / den < 2 ^ (q + 53) := by
    split_ifs with hsmall
    · refine ⟨_, rfl, ?_, ?_⟩
      · have : guess - 1 + 52 = guess + 51 := by omega
        rw [this]
        exact hlow'.le
      · have : guess - 1 + 53 = guess + 52 := by omega
        rwa [this]
    · exact ⟨_, rfl, not_lt.mp hsmall, hhigh'⟩
  rw [hq]
  split_ifs with hleast
  · refine ⟨le_rfl, hqhigh.trans_le ?_, fun h => absurd h (lt_irrefl _)⟩
    exact zpow_le_zpow_right₀ (by norm_num) (by omega)
  · exact ⟨not_lt.mp hleast, hqhigh, fun _ => hqlow⟩

/-! ## Where rounding ends -/

/-- Half the least double.  Up to it numbers are rounded to zero. -/
def underflow : ℚ := 2 ^ (-1075 : ℤ)

/-- Half a unit above the greatest double.  From it on numbers are rounded to infinity. -/
def overflow : ℚ := (2 ^ 54 - 1) * 2 ^ (970 : ℤ)

theorem overflow_lt : overflow < 2 ^ (1024 : ℤ) := by
  have hsplit : (2 : ℚ) ^ (1024 : ℤ) = 2 ^ 54 * 2 ^ (970 : ℤ) := by
    rw [← zpow_natCast, ← zpow_add₀ (by norm_num)]
    norm_num
  have hpos : (0 : ℚ) < 2 ^ (970 : ℤ) := by positivity
  rw [hsplit]
  unfold overflow
  gcongr
  norm_num

theorem lt_overflow : (2 : ℚ) ^ (1023 : ℤ) < overflow := by
  have hsplit : (2 : ℚ) ^ (1023 : ℤ) = 2 ^ 53 * 2 ^ (970 : ℤ) := by
    rw [← zpow_natCast, ← zpow_add₀ (by norm_num)]
    norm_num
  have hpos : (0 : ℚ) < 2 ^ (970 : ℤ) := by positivity
  rw [hsplit]
  unfold overflow
  gcongr
  norm_num

/-- A mantissa is zero when the quotient is half a unit or less. -/
theorem mantissa_eq_zero_iff (num : ℕ) (hden : 0 < den) (q : ℤ) :
    roundDiv (scale num den q).1 (scale num den q).2 = 0 ↔ (num : ℚ) / den ≤ 2 ^ (q - 1) := by
  have hhalf : (2 : ℚ) ^ q = 2 * 2 ^ (q - 1) := by
    rw [zpow_sub_one₀ (by norm_num)]
    ring
  rw [roundDiv_eq_zero_iff (scale_snd_pos hden q), ← one_mul (scale num den q).2, le_scale_iff hden,
    Nat.cast_one, one_mul, hhalf, Nat.cast_ofNat, mul_le_mul_iff_right₀ (by norm_num)]

/-- A mantissa has 54 bits from half a unit above the greatest one of 53 bits on. -/
theorem mantissa_eq_two_mul_iff (hden : 0 < den) {q : ℤ} (hq : (num : ℚ) / den < 2 ^ (q + 53)) :
    roundDiv (scale num den q).1 (scale num den q).2 = 2 * leastMantissa ↔
      (2 ^ 54 - 1) * 2 ^ (q - 1) ≤ (num : ℚ) / den := by
  have hlead : 2 * leastMantissa = 2 ^ 53 - 1 + 1 := by decide
  have hhalf : (2 : ℚ) ^ q = 2 * 2 ^ (q - 1) := by
    rw [zpow_sub_one₀ (by norm_num)]
    ring
  have hbelow : (scale num den q).1 < (2 ^ 53 - 1 + 1) * (scale num den q).2 := by
    rw [← not_le, ← one_mul (scale num den q).1, scale_le_iff hden, Nat.cast_one, one_mul, not_le]
    have hsplit : (2 : ℚ) ^ (q + 53) = ((2 ^ 53 - 1 + 1 : ℕ) : ℚ) * 2 ^ q := by
      rw [zpow_add₀ (by norm_num), mul_comm]
      norm_num
    rwa [← hsplit]
  rw [hlead, roundDiv_eq_succ_iff (scale_snd_pos hden q) (by decide) hbelow, scale_le_iff hden, hhalf,
    Nat.cast_ofNat, mul_left_comm, mul_le_mul_iff_right₀ (by norm_num)]
  norm_num

theorem underflow_lt_overflow : underflow < overflow :=
  (zpow_lt_zpow_right₀ (by norm_num) (by norm_num)).trans lt_overflow

section

variable {q : ℤ} {x : ℚ}

/-- At the greatest exponent a number from `overflow` on is large enough. -/
theorem maxExponent_le (hx : overflow ≤ x) (hq : x < 2 ^ (q + 53)) : maxExponent ≤ q := by
  have hpow : (2 : ℚ) ^ (1023 : ℤ) < 2 ^ (q + 53) := lt_overflow.trans (hx.trans_lt hq)
  have hexponent := (zpow_lt_zpow_iff_right₀ (by norm_num)).mp hpow
  unfold maxExponent
  omega

theorem le_maxExponent (hx : x < overflow) (hq : minExponent < q → (2 : ℚ) ^ (q + 52) ≤ x) :
    q ≤ maxExponent := by
  by_contra hlt
  have hmin : minExponent < maxExponent := by decide
  have hpow : (2 : ℚ) ^ (q + 52) < 2 ^ (1024 : ℤ) := (hq (by omega)).trans_lt (hx.trans overflow_lt)
  have hexponent := (zpow_lt_zpow_iff_right₀ (by norm_num)).mp hpow
  unfold maxExponent at hlt
  omega

/-- Half a unit or less is below 52 bits. -/
theorem eq_minExponent (hx : x ≤ 2 ^ (q - 1)) (hleast : minExponent ≤ q)
    (hq : minExponent < q → (2 : ℚ) ^ (q + 52) ≤ x) : q = minExponent := by
  by_contra hne
  have hpow : (2 : ℚ) ^ (q + 52) ≤ 2 ^ (q - 1) := (hq (by omega)).trans hx
  have hexponent := (zpow_le_zpow_iff_right₀ (by norm_num)).mp hpow
  omega

theorem underflow_le (hleast : minExponent ≤ q) : underflow ≤ 2 ^ (q - 1) := by
  unfold underflow
  unfold minExponent at hleast
  exact zpow_le_zpow_right₀ (by norm_num) (by omega)

end

/-- **What a quotient is rounded to**: zero, a finite number that is not zero, or infinity. -/
theorem ofRatio_cases (negative : Bool) (num : ℕ) (hden : 0 < den) :
    ((num : ℚ) / den ≤ underflow ∧ ofRatio negative num den = finite negative 0 minExponent) ∨
      (underflow < (num : ℚ) / den ∧ (num : ℚ) / den < overflow ∧
        ∃ m q, m ≠ 0 ∧ ofRatio negative num den = finite negative m q) ∨
      (overflow ≤ (num : ℚ) / den ∧ ofRatio negative num den = infinite negative) := by
  by_cases hnum : num = 0
  · left
    rw [hnum, Nat.cast_zero, zero_div, ofRatio, if_pos rfl]
    exact ⟨by unfold underflow; positivity, rfl⟩
  obtain ⟨hleast, hbelow, habove⟩ := exponentFor_spec hnum hden
  unfold ofRatio
  rw [if_neg hnum]
  dsimp only
  generalize exponentFor num den = q at *
  have hzero := mantissa_eq_zero_iff num hden q
  have htop := mantissa_eq_two_mul_iff hden hbelow
  generalize roundDiv (scale num den q).1 (scale num den q).2 = m at *
  generalize (num : ℚ) / den = x at *
  have hover : maxExponent = q → (m = 2 * leastMantissa ↔ overflow ≤ x) := by
    rintro rfl
    exact htop
  rcases le_or_gt overflow x with hlarge | hsmall
  · have hq : maxExponent ≤ q := maxExponent_le hlarge hbelow
    refine .inr (.inr ⟨hlarge, ?_⟩)
    by_cases hm : m = 2 * leastMantissa
    · rw [if_pos hm]
      exact if_pos (by omega)
    · have hne : maxExponent ≠ q := fun h => hm ((hover h).mpr hlarge)
      rw [if_neg hm]
      exact if_pos (by omega)
  · have hq : q ≤ maxExponent := le_maxExponent hsmall habove
    by_cases hm : m = 0
    · obtain rfl : q = minExponent := eq_minExponent (hzero.mp hm) hleast habove
      have hne : m ≠ 2 * leastMantissa := by
        rw [hm]
        decide
      left
      rw [if_neg hne, hm]
      exact ⟨hzero.mp hm, if_neg (by decide)⟩
    · have hlt : underflow < x :=
        (underflow_le hleast).trans_lt (not_le.mp fun h => hm (hzero.mpr h))
      refine .inr (.inl ⟨hlt, hsmall, ?_⟩)
      by_cases hm' : m = 2 * leastMantissa
      · have hne : maxExponent ≠ q := fun h => absurd ((hover h).mp hm') (not_le.mpr hsmall)
        rw [if_pos hm']
        exact ⟨leastMantissa, q + 1, by decide, if_neg (by omega)⟩
      · rw [if_neg hm']
        exact ⟨m, q, hm, if_neg (by omega)⟩

theorem ofRatio_of_le_underflow (negative : Bool) (hden : 0 < den)
    (hx : (num : ℚ) / den ≤ underflow) :
    ofRatio negative num den = finite negative 0 minExponent := by
  rcases ofRatio_cases negative num hden with ⟨-, h⟩ | ⟨hlt, -⟩ | ⟨hle, -⟩
  · exact h
  · exact absurd hx (not_le.mpr hlt)
  · exact absurd (hle.trans hx) (not_le.mpr underflow_lt_overflow)

theorem ofRatio_of_overflow_le (negative : Bool) (hden : 0 < den)
    (hx : overflow ≤ (num : ℚ) / den) : ofRatio negative num den = infinite negative := by
  rcases ofRatio_cases negative num hden with ⟨hle, -⟩ | ⟨-, hlt, -⟩ | ⟨-, h⟩
  · exact absurd (hx.trans hle) (not_le.mpr underflow_lt_overflow)
  · exact absurd hx (not_le.mpr hlt)
  · exact h

theorem ofRatio_isInfinite_iff (negative : Bool) (num : ℕ) (hden : 0 < den) :
    (ofRatio negative num den).isInfinite = true ↔ overflow ≤ (num : ℚ) / den := by
  refine ⟨fun hinfinite => ?_, fun hx => by rw [ofRatio_of_overflow_le negative hden hx]; rfl⟩
  rcases ofRatio_cases negative num hden with ⟨-, h⟩ | ⟨-, -, m, q, -, h⟩ | ⟨hx, -⟩
  · rw [h] at hinfinite
    cases hinfinite
  · rw [h] at hinfinite
    cases hinfinite
  · exact hx

theorem ofRatio_isZero_iff (negative : Bool) (num : ℕ) (hden : 0 < den) :
    (ofRatio negative num den).isZero = true ↔ (num : ℚ) / den ≤ underflow := by
  refine ⟨fun hzero => ?_, fun hx => by rw [ofRatio_of_le_underflow negative hden hx]; rfl⟩
  rcases ofRatio_cases negative num hden with ⟨hx, -⟩ | ⟨-, -, m, q, hm, h⟩ | ⟨-, h⟩
  · exact hx
  · rw [h] at hzero
    unfold isZero at hzero
    split at hzero <;> simp_all
  · rw [h] at hzero
    cases hzero

end

/-! ## Integers -/

/-- The integers that are rounded to an infinity. -/
theorem ofInt_isInfinite_iff (n : ℤ) :
    (ofInt n).isInfinite = true ↔ (2 ^ 54 - 1) * 2 ^ 970 ≤ n.natAbs := by
  have hcast : ∀ e : ℕ, (((2 ^ 54 - 1) * 2 ^ e : ℕ) : ℚ) = (2 ^ 54 - 1) * 2 ^ (e : ℤ) := by
    intro e
    rw [Nat.cast_mul, Nat.cast_pow, zpow_natCast]
    norm_num
  unfold ofInt
  rw [ofRatio_isInfinite_iff _ _ one_pos, Nat.cast_one, div_one, ← Nat.cast_le (α := ℚ), hcast]
  rfl

/-- Only zero is rounded to zero. -/
theorem ofInt_isZero_iff (n : ℤ) : (ofInt n).isZero = true ↔ n = 0 := by
  unfold ofInt
  rw [ofRatio_isZero_iff _ _ one_pos, Nat.cast_one, div_one]
  constructor
  · intro hle
    have hlt : underflow < 1 := zpow_lt_one_of_neg₀ (by norm_num) (by norm_num)
    have habs : (n.natAbs : ℚ) < 1 := hle.trans_lt hlt
    have hzero : n.natAbs < 1 := by exact_mod_cast habs
    omega
  · rintro rfl
    unfold underflow
    rw [Int.natAbs_zero, Nat.cast_zero]
    positivity

end Double

end Literate

import Mathlib
import Literate.Decimal.Reading
import Literate.Proofs.Decimal.Range

/-!
# The numbers that texts spell

A text spells a number when, less the blanks around it and the underscores between its digits, it is a
sign and a word for infinity or not a number, or decimal digits with a point and an exponent.  Reading
gives the double nearest to what is spelled, however many digits and however large an exponent there
are.

* `Double.digitsValue_lt`, `Double.pow_le_digitsValue`: how large a number of so many digits is.
* `Double.ofDecimal_eq`: far outside the range of doubles, too, the number is the nearest double.
* `Double.Spelling`, `Double.Spells`: what is spelled.
* `Double.ofText?_eq_some_iff`: reading a number.
-/

namespace Literate.Double

open Text

/-! ## Decimal digits -/

/-- A text of decimal digits. -/
def IsDigits (t : Text) : Prop := ∀ c ∈ t, c.isDigit = true

theorem digitsValue_foldl (n : ℕ) (t : Text) :
    t.foldl (fun n c => 10 * n + (c.toNat - 48)) n = n * 10 ^ t.length + digitsValue t := by
  unfold digitsValue
  induction t generalizing n with
  | nil => simp
  | cons c t ih =>
    rw [List.foldl_cons, List.foldl_cons, ih, ih (10 * 0 + (c.toNat - 48)), List.length_cons, pow_succ]
    ring

theorem digitsValue_cons (c : Char) (t : Text) :
    digitsValue (c :: t) = (c.toNat - 48) * 10 ^ t.length + digitsValue t := by
  conv_lhs => unfold digitsValue
  rw [List.foldl_cons, digitsValue_foldl, mul_zero, zero_add]

theorem digitsValue_lt {t : Text} (h : IsDigits t) : digitsValue t < 10 ^ t.length := by
  induction t with
  | nil => decide
  | cons c t ih =>
    obtain ⟨hc, ht⟩ := List.forall_mem_cons.mp h
    have hdigit : c.toNat - 48 ≤ 9 := by
      simp only [Char.isDigit, Bool.and_eq_true, decide_eq_true_eq] at hc
      have hle : c.toNat ≤ 57 := hc.2
      omega
    rw [digitsValue_cons, List.length_cons]
    calc (c.toNat - 48) * 10 ^ t.length + digitsValue t
        < 9 * 10 ^ t.length + 10 ^ t.length :=
          Nat.add_lt_add_of_le_of_lt (Nat.mul_le_mul_right _ hdigit) (ih ht)
      _ = 10 ^ (t.length + 1) := by ring

theorem pow_le_digitsValue {c : Char} (hc : c.isDigit = true) (hne : c ≠ '0') (t : Text) :
    10 ^ t.length ≤ digitsValue (c :: t) := by
  have hdigit : 1 ≤ c.toNat - 48 := by
    simp only [Char.isDigit, Bool.and_eq_true, decide_eq_true_eq] at hc
    have hle : 48 ≤ c.toNat := hc.1
    have hne' : c.toNat ≠ 48 := fun h => hne (Char.toNat_inj.mp h)
    omega
  rw [digitsValue_cons]
  calc 10 ^ t.length = 1 * 10 ^ t.length := (one_mul _).symm
    _ ≤ (c.toNat - 48) * 10 ^ t.length := Nat.mul_le_mul_right _ hdigit
    _ ≤ (c.toNat - 48) * 10 ^ t.length + digitsValue t := Nat.le_add_right _ _

/-- Zeros in front do not count. -/
theorem digitsValue_dropWhile (t : Text) : digitsValue (t.dropWhile (· == '0')) = digitsValue t := by
  induction t with
  | nil => rfl
  | cons c t ih =>
    rw [List.dropWhile_cons]
    split_ifs with hc
    · obtain rfl : c = '0' := by simpa using hc
      rw [ih, digitsValue_cons]
      simp
    · rfl

/-- What is left of digits without the zeros in front: nothing, or a number that fills its length. -/
theorem significant_cases {t : Text} (h : IsDigits t) :
    let significant := t.dropWhile (· == '0')
    (significant = [] ∧ digitsValue t = 0) ∨
      (10 ^ (significant.length - 1) ≤ digitsValue t ∧ digitsValue t < 10 ^ significant.length ∧
        1 ≤ significant.length) := by
  intro significant
  have hdigits : IsDigits significant := fun c hc => h c ((List.dropWhile_suffix _).subset hc)
  have hvalue : digitsValue t = digitsValue significant := (digitsValue_dropWhile t).symm
  rw [hvalue]
  cases hs : significant with
  | nil => exact .inl ⟨rfl, rfl⟩
  | cons c s =>
    rw [hs] at hdigits
    have hne : c ≠ '0' := by
      have hhead := List.head?_dropWhile_not (· == '0') t
      rw [show t.dropWhile (· == '0') = c :: s from hs] at hhead
      simpa using hhead
    exact .inr ⟨pow_le_digitsValue (hdigits c (by simp)) hne s, digitsValue_lt hdigits, by simp⟩

/-! ## Powers of ten -/

theorem tenTo_of_nonpos {e : ℤ} (he : e ≤ 0) : tenTo e = 1 := by
  rw [tenTo, Int.toNat_of_nonpos he]

theorem tenTo_pos (e : ℤ) : 0 < tenTo e := Nat.pow_pos (by norm_num)

/-- The quotient that stands for a decimal number. -/
theorem decimal_quotient (n : ℕ) (e : ℤ) :
    ((n * tenTo e : ℕ) : ℚ) / tenTo (-e) = n * 10 ^ e := by
  rcases le_total 0 e with he | he
  · obtain ⟨k, rfl⟩ := Int.eq_ofNat_of_zero_le he
    rw [tenTo_of_nonpos (by omega : -(k : ℤ) ≤ 0)]
    simp [tenTo]
  · obtain ⟨k, hk⟩ := Int.eq_ofNat_of_zero_le (by omega : 0 ≤ -e)
    have he' : e = -(k : ℤ) := by omega
    rw [tenTo_of_nonpos he, hk, he', zpow_neg, div_eq_mul_inv]
    simp [tenTo]

theorem two_pow_le : (2 : ℚ) ^ (1200 : ℤ) ≤ 10 ^ (400 : ℤ) := by
  rw [show (1200 : ℤ) = 3 * 400 from rfl, zpow_mul]
  exact zpow_le_zpow_left₀ (by norm_num) (by norm_num) (by norm_num)

theorem overflow_le_pow {k : ℤ} (hk : 400 ≤ k) : overflow ≤ 10 ^ k := by
  calc overflow ≤ 2 ^ (1024 : ℤ) := overflow_lt.le
    _ ≤ 2 ^ (1200 : ℤ) := zpow_le_zpow_right₀ (by norm_num) (by norm_num)
    _ ≤ 10 ^ (400 : ℤ) := two_pow_le
    _ ≤ 10 ^ k := zpow_le_zpow_right₀ (by norm_num) hk

theorem pow_le_underflow {k : ℤ} (hk : k ≤ -400) : (10 : ℚ) ^ k ≤ underflow := by
  calc (10 : ℚ) ^ k ≤ 10 ^ (-400 : ℤ) := zpow_le_zpow_right₀ (by norm_num) hk
    _ = (10 ^ (400 : ℤ))⁻¹ := zpow_neg _ _
    _ ≤ (2 ^ (1200 : ℤ))⁻¹ := inv_anti₀ (by positivity) two_pow_le
    _ = 2 ^ (-1200 : ℤ) := (zpow_neg _ _).symm
    _ ≤ underflow := zpow_le_zpow_right₀ (by norm_num) (by norm_num)

/-- Far outside the range of doubles, too, the number read is the nearest one. -/
theorem ofDecimal_eq (negative : Bool) {digits : Text} (h : IsDigits digits) (e : ℤ) :
    ofDecimal negative digits e =
      ofRatio negative (digitsValue digits * tenTo e) (tenTo (-e)) := by
  have hpow : ∀ k : ℕ, (10 : ℚ) ^ k * 10 ^ e = 10 ^ (k + e) := by
    intro k
    rw [← zpow_natCast, ← zpow_add₀ (by norm_num)]
  have hpos : (0 : ℚ) < 10 ^ e := by positivity
  unfold ofDecimal
  dsimp only
  rw [digitsValue_dropWhile]
  rcases significant_cases h with ⟨-, hzero⟩ | ⟨hlow, hhigh, hlen⟩
  · rw [if_pos hzero, hzero, zero_mul, ofRatio, if_pos rfl]
  have hne : digitsValue digits ≠ 0 := by
    have hten : 0 < 10 ^ ((digits.dropWhile (· == '0')).length - 1) := Nat.pow_pos (by norm_num)
    omega
  generalize (digits.dropWhile (· == '0')).length = len at *
  rw [if_neg hne]
  split_ifs with hlarge hsmall he
  · refine (ofRatio_of_overflow_le negative (tenTo_pos _) ?_).symm
    rw [decimal_quotient]
    calc overflow ≤ 10 ^ (((len - 1 : ℕ) : ℤ) + e) := overflow_le_pow (by omega)
      _ = ((10 ^ (len - 1) : ℕ) : ℚ) * 10 ^ e := by rw [Nat.cast_pow, Nat.cast_ofNat, hpow]
      _ ≤ digitsValue digits * 10 ^ e := by gcongr
  · refine (ofRatio_of_le_underflow negative (tenTo_pos _) ?_).symm
    rw [decimal_quotient]
    calc (digitsValue digits : ℚ) * 10 ^ e ≤ ((10 ^ len : ℕ) : ℚ) * 10 ^ e := by gcongr
      _ = 10 ^ ((len : ℤ) + e) := by rw [Nat.cast_pow, Nat.cast_ofNat, hpow]
      _ ≤ underflow := pow_le_underflow (by omega)
  · rw [tenTo_of_nonpos (by omega : -e ≤ 0)]
  · rw [tenTo_of_nonpos (by omega : e ≤ 0), mul_one]

/-! ## What is spelled -/

/-- What the text of a number spells. -/
inductive Spelling
  | nan
  | infinite (negative : Bool)
  /-- The number `n · 10 ^ e`, with its sign. -/
  | decimal (negative : Bool) (n : ℕ) (e : ℤ)

namespace Spelling

/-- The double nearest to what is spelled. -/
def nearest : Spelling → Double
  | nan => .nan
  | infinite negative => .infinite negative
  | decimal negative n e => ofRatio negative (n * tenTo e) (tenTo (-e))

/-- A decimal number is rounded to zero, to a finite number that is not zero, or to infinity. -/
theorem nearest_cases (negative : Bool) (n : ℕ) (e : ℤ) :
    ((n : ℚ) * 10 ^ e ≤ underflow ∧
        nearest (decimal negative n e) = finite negative 0 minExponent) ∨
      (underflow < (n : ℚ) * 10 ^ e ∧ (n : ℚ) * 10 ^ e < overflow ∧
        ∃ m q, m ≠ 0 ∧ nearest (decimal negative n e) = finite negative m q) ∨
      (overflow ≤ (n : ℚ) * 10 ^ e ∧ nearest (decimal negative n e) = .infinite negative) := by
  rw [← decimal_quotient]
  exact ofRatio_cases negative _ (tenTo_pos _)

end Spelling

/-- What a text without a sign spells: a word, in any case, or digits with an exponent, and with a
point before, between or behind them. -/
inductive SpellsUnsigned (negative : Bool) : Text → Spelling → Prop
  | infinity {t : Text}
    (ht : t.map Char.toLower = ['i', 'n', 'f'] ∨
      t.map Char.toLower = ['i', 'n', 'f', 'i', 'n', 'i', 't', 'y']) :
    SpellsUnsigned negative t (.infinite negative)
  | nan {t : Text} (ht : t.map Char.toLower = ['n', 'a', 'n']) : SpellsUnsigned negative t .nan
  | whole {w r : Text} {e : ℤ} (hw : IsDigits w) (hne : w ≠ []) (he : exponent? r = some e) :
    SpellsUnsigned negative (w ++ r) (.decimal negative (digitsValue w) e)
  | pointed {w f r : Text} {e : ℤ} (hw : IsDigits w) (hf : IsDigits f) (hne : w ++ f ≠ [])
    (he : exponent? r = some e) :
    SpellsUnsigned negative (w ++ '.' :: (f ++ r))
      (.decimal negative (digitsValue (w ++ f)) (e - f.length))

/-- The text of a number with ASCII digits and without underscores and blanks around it, if the
underscores stand between digits. -/
def bare? (t : Text) : Option Text :=
  dropUnderscores '\x00' (dropEndWhile isOuterBlank ((normalize t).dropWhile isOuterBlank))

/-- What a text spells: a sign and what follows it. -/
def Spells (t : Text) (s : Spelling) : Prop :=
  ∃ u, bare? t = some u ∧ SpellsUnsigned (takeSign u).1 (takeSign u).2 s

/-! ## Reading -/

/-- An exponent begins with its letter. -/
theorem isDigit_head?_of_exponent? {r : Text} {e : ℤ} (h : exponent? r = some e) :
    ∀ c ∈ r.head?, c.isDigit = false ∧ c ≠ '.' := by
  cases r with
  | nil => simp
  | cons c r =>
    unfold exponent? at h
    dsimp only at h
    intro d hd
    obtain rfl : c = d := Option.some.inj hd
    by_cases hc : (decide (c = 'e') || decide (c = 'E')) = true
    · simp only [Bool.or_eq_true, decide_eq_true_eq] at hc
      rcases hc with rfl | rfl <;> decide
    · rw [if_neg hc] at h
      cases h

theorem takeWhile_digits {w r : Text} (hw : IsDigits w) (hr : ∀ c ∈ r.head?, c.isDigit = false) :
    (w ++ r).takeWhile Char.isDigit = w ∧ (w ++ r).dropWhile Char.isDigit = r := by
  rw [List.takeWhile_append_of_pos hw, List.dropWhile_append_of_pos hw]
  cases r with
  | nil => simp
  | cons c r => simp [hr c rfl]

theorem isDigits_takeWhile (t : Text) : IsDigits (t.takeWhile Char.isDigit) :=
  fun _ hc => List.mem_takeWhile_imp hc

theorem toLower_of_isDigit {c : Char} (hc : c.isDigit = true) : c.toLower = c := by
  simp only [Char.isDigit, Bool.and_eq_true, decide_eq_true_eq] at hc
  unfold Char.toLower
  rw [dif_neg]
  rintro ⟨habove, -⟩
  have hlow : 65 ≤ c.val.toNat := habove
  have hhigh : c.val.toNat ≤ 57 := hc.2
  omega

/-- A text that begins with a digit or a point begins with no letter. -/
theorem map_toLower_ne {t : Text} (ht : ∃ c ∈ t.head?, c.isDigit = true ∨ c = '.') {d : Char}
    (hd : d.isAlpha = true) (w : Text) : t.map Char.toLower ≠ d :: w := by
  intro h
  obtain ⟨c, hmem, hc⟩ := ht
  obtain ⟨t, rfl⟩ : ∃ r, t = c :: r := List.head?_eq_some_iff.mp hmem
  have hlower : c.toLower = d := (List.cons.inj h).1
  rcases hc with hc | rfl
  · rw [toLower_of_isDigit hc] at hlower
    subst hlower
    simp only [Char.isAlpha, Char.isUpper, Char.isLower, Char.isDigit, Bool.or_eq_true,
      Bool.and_eq_true, decide_eq_true_eq] at hd hc
    have hhigh : c.val.toNat ≤ 57 := hc.2
    rcases hd with ⟨hlow, -⟩ | ⟨hlow, -⟩
    · have hlow' : 65 ≤ c.val.toNat := hlow
      omega
    · have hlow' : 97 ≤ c.val.toNat := hlow
      omega
  · subst hlower
    revert hd
    decide

theorem not_word {t : Text} (ht : ∃ c ∈ t.head?, c.isDigit = true ∨ c = '.') :
    ¬(t.map Char.toLower = ['i', 'n', 'f'] ∨
        t.map Char.toLower = ['i', 'n', 'f', 'i', 'n', 'i', 't', 'y']) ∧
      ¬t.map Char.toLower = ['n', 'a', 'n'] :=
  ⟨not_or.mpr ⟨map_toLower_ne ht (by decide) _, map_toLower_ne ht (by decide) _⟩,
    map_toLower_ne ht (by decide) _⟩

section

variable (negative : Bool) {w f r : Text} {e : ℤ}

theorem ofUnsigned?_whole (hw : IsDigits w) (hne : w ≠ []) (he : exponent? r = some e) :
    ofUnsigned? negative (w ++ r) = some (ofDecimal negative w e) := by
  have hr := isDigit_head?_of_exponent? he
  obtain ⟨htake, hdrop⟩ := takeWhile_digits hw fun c hc => (hr c hc).1
  have hhead : ∃ c ∈ (w ++ r).head?, c.isDigit = true ∨ c = '.' := by
    obtain ⟨c, w, rfl⟩ := List.exists_cons_of_ne_nil hne
    exact ⟨c, rfl, .inl (hw c (by simp))⟩
  unfold ofUnsigned?
  simp only [Bool.or_eq_true, decide_eq_true_eq, not_word hhead, if_false, htake, hdrop]
  have hempty : w.isEmpty = false := by simpa using hne
  cases r with
  | nil => simp [hempty, he]
  | cons c r =>
    have hpoint := (hr c rfl).2
    simp [hempty, hpoint, he]

theorem ofUnsigned?_pointed (hw : IsDigits w) (hf : IsDigits f) (hne : w ++ f ≠ [])
    (he : exponent? r = some e) :
    ofUnsigned? negative (w ++ '.' :: (f ++ r)) =
      some (ofDecimal negative (w ++ f) (e - f.length)) := by
  have hr := isDigit_head?_of_exponent? he
  obtain ⟨htake, hdrop⟩ := takeWhile_digits (r := '.' :: (f ++ r)) hw fun c hc => by
    obtain rfl : '.' = c := Option.some.inj hc
    decide
  obtain ⟨htake', hdrop'⟩ := takeWhile_digits hf fun c hc => (hr c hc).1
  have hhead : ∃ c ∈ (w ++ '.' :: (f ++ r)).head?, c.isDigit = true ∨ c = '.' := by
    cases w with
    | nil => exact ⟨'.', rfl, .inr rfl⟩
    | cons c w => exact ⟨c, rfl, .inl (hw c (by simp))⟩
  unfold ofUnsigned?
  simp only [Bool.or_eq_true, decide_eq_true_eq, not_word hhead, if_false, htake, hdrop, htake',
    hdrop', he, Option.map_some]
  exact if_neg (by simpa using hne)

theorem ofUnsigned?_eq_some_iff {t : Text} {x : Double} :
    ofUnsigned? negative t = some x ↔ ∃ s, SpellsUnsigned negative t s ∧ s.nearest = x := by
  constructor
  · intro h
    have hwhole : t.takeWhile Char.isDigit ++ t.dropWhile Char.isDigit = t :=
      List.takeWhile_append_dropWhile
    have hdigits := isDigits_takeWhile t
    unfold ofUnsigned? at h
    simp only [Bool.or_eq_true, decide_eq_true_eq] at h
    split_ifs at h with hinf hnan hempty
    · exact ⟨_, .infinity hinf, Option.some.inj h⟩
    · exact ⟨_, .nan hnan, Option.some.inj h⟩
    · rw [← hwhole]
      generalize t.takeWhile Char.isDigit = w at *
      generalize t.dropWhile Char.isDigit = rest at *
      by_cases hpoint : ∃ r, rest = '.' :: r
      · obtain ⟨r, rfl⟩ := hpoint
        have hfraction := isDigits_takeWhile r
        have hboth := List.forall_mem_append.mpr ⟨hdigits, hfraction⟩
        simp only [Option.map_eq_some_iff] at h
        simp only [Bool.and_eq_true, List.isEmpty_iff, ← List.append_eq_nil_iff] at hempty
        obtain ⟨e, he, rfl⟩ := h
        have hspelled : SpellsUnsigned negative
            (w ++ '.' :: (r.takeWhile Char.isDigit ++ r.dropWhile Char.isDigit)) _ :=
          .pointed hdigits hfraction hempty he
        rw [List.takeWhile_append_dropWhile] at hspelled
        exact ⟨_, hspelled, (ofDecimal_eq negative hboth _).symm⟩
      · obtain ⟨hne, e, he, hx⟩ : w ≠ [] ∧
            ∃ e, exponent? rest = some e ∧ ofDecimal negative w e = x := by
          cases rest with
          | nil => exact ⟨by simpa using hempty, by simpa using h⟩
          | cons c r =>
            have hc : c ≠ '.' := fun hc => hpoint ⟨r, by rw [hc]⟩
            exact ⟨by simpa [hc] using hempty, by simpa [hc] using h⟩
        rw [ofDecimal_eq negative hdigits] at hx
        exact ⟨_, .whole hdigits hne he, hx⟩
  · rintro ⟨s, hs, rfl⟩
    cases hs with
    | infinity ht =>
      unfold ofUnsigned?
      exact if_pos (by simpa using ht)
    | nan ht =>
      unfold ofUnsigned?
      rw [ht]
      rfl
    | whole hw hne he =>
      rw [ofUnsigned?_whole negative hw hne he, ofDecimal_eq negative hw]
      rfl
    | pointed hw hf hne he =>
      have hdigits := List.forall_mem_append.mpr ⟨hw, hf⟩
      rw [ofUnsigned?_pointed negative hw hf hne he, ofDecimal_eq negative hdigits]
      rfl

end

/-- **Reading a number** gives the double nearest to what the text spells. -/
theorem ofText?_eq_some_iff {t : Text} {x : Double} :
    ofText? t = some x ↔ ∃ s, Spells t s ∧ s.nearest = x := by
  have hread : ofText? t = (bare? t).bind fun u => ofUnsigned? (takeSign u).1 (takeSign u).2 := by
    unfold ofText? bare?
    dsimp only
    cases dropUnderscores '\x00'
      (dropEndWhile isOuterBlank ((normalize t).dropWhile isOuterBlank)) <;> rfl
  rw [hread]
  unfold Spells
  cases bare? t with
  | none => simp
  | some u => simp [ofUnsigned?_eq_some_iff]

example : Spells " -1_0.\u0665E3\n".toList (.decimal true 105 2) :=
  ⟨"-10.5E3".toList, by decide,
    .pointed (w := ['1', '0']) (f := ['5']) (r := ['E', '3']) (e := 3)
      (List.all_eq_true.mp (by decide)) (List.all_eq_true.mp (by decide)) (by decide) (by decide)⟩

end Literate.Double

import Mathlib
import Literate.Proofs.Decimal.Reading
import Literate.Proofs.Settings.Load
import Literate.Run.Machine

/-!
# What comes of a timeout

A timeout that is accepted should be usable: no timeout at all, for a value that is missing, empty or
zero, or a finite number of seconds above zero.  Everything else should be a configuration error.  This
holds for all values but those that are not reported and those that stand for an infinity or for no
number: the words for these, the floats, and the texts of numbers from `Double.overflow` on.  No program
can be waited for that long.  The interpreter's recursion limit is left out: showing a value that is
nested deeper than it allows, in the message of a configuration error, is one more fault.

* `Settings.StandsFor`: the numbers that values stand for.
* `Settings.Vanishes`, `Settings.Unusable`: the values that stand for zero, and those that are accepted
  but of no use.
* `Settings.TimeoutSettled`: what should come of a timeout.
* `Settings.parseTimeout_settled`: for which values it does.
-/

namespace Literate

open Text

namespace Double

/-! ## Kinds of numbers -/

/-- A finite number above zero. -/
def IsPositive (x : Double) : Prop := ∃ m q, x = finite false m q ∧ m ≠ 0

/-- An infinity above zero or no number. -/
def IsUnusable (x : Double) : Prop := x = nan ∨ x = infinite false

/-- A number that is neither negative nor zero. -/
theorem isPositive_or_isUnusable {x : Double} (hneg : x.isNegative = false)
    (hzero : x.isZero = false) : x.IsPositive ∨ x.IsUnusable := by
  cases x with
  | nan => exact .inr (.inl rfl)
  | infinite negative =>
    cases negative with
    | true => cases hneg
    | false => exact .inr (.inr rfl)
  | finite negative m q =>
    have hm : m ≠ 0 := by
      rintro rfl
      cases hzero
    cases negative with
    | true => exact absurd hneg (by simpa [isNegative] using hm)
    | false => exact .inl ⟨m, q, rfl, hm⟩

theorem IsPositive.not_isUnusable {x : Double} (h : x.IsPositive) : ¬x.IsUnusable := by
  obtain ⟨m, q, rfl, -⟩ := h
  rintro (h | h) <;> cases h

theorem IsUnusable.isNegative {x : Double} (h : x.IsUnusable) : x.isNegative = false := by
  rcases h with rfl | rfl <;> rfl

theorem IsUnusable.isZero {x : Double} (h : x.IsUnusable) : x.isZero = false := by
  rcases h with rfl | rfl <;> rfl

/-- Zero of either sign is not negative. -/
theorem isNegative_of_isZero {x : Double} (h : x.isZero = true) : x.isNegative = false := by
  unfold isZero at h
  split at h
  · simp [isNegative]
  · cases h

/-- No program can be waited for for such a time. -/
theorem IsUnusable.ofSeconds_eq {x : Double} (h : x.IsUnusable) :
    Run.Patience.ofSeconds x = .impossible := by
  rcases h with rfl | rfl <;> rfl

/-- An integer below the bound is no infinity. -/
theorem not_isUnusable_ofInt {n : ℤ} (hn : n.natAbs < (2 ^ 54 - 1) * 2 ^ 970) :
    ¬(ofInt n).IsUnusable := by
  rintro (hnan | hinfinite)
  · unfold ofInt at hnan
    rcases ofRatio_cases (n < 0) n.natAbs one_pos with ⟨-, h⟩ | ⟨-, -, m, q, -, h⟩ | ⟨-, h⟩ <;>
      · rw [h] at hnan
        cases hnan
  · have hlarge := (ofInt_isInfinite_iff n).mp (by rw [hinfinite]; rfl)
    omega

namespace Spelling

theorem nearest_isZero_iff {s : Spelling} :
    s.nearest.isZero = true ↔
      ∃ negative n e, s = decimal negative n e ∧ (n : ℚ) * 10 ^ e ≤ underflow := by
  cases s with
  | nan => exact iff_of_false (by decide) (by rintro ⟨negative, n, e, ⟨⟩, -⟩)
  | infinite negative =>
    exact iff_of_false (by simp [nearest, isZero]) (by rintro ⟨negative, n, e, ⟨⟩, -⟩)
  | decimal negative n e =>
    rw [nearest, ofRatio_isZero_iff _ _ (tenTo_pos _), decimal_quotient]
    constructor
    · exact fun h => ⟨negative, n, e, rfl, h⟩
    · rintro ⟨negative, n, e, ⟨⟩, h⟩
      exact h

theorem nearest_isUnusable_iff {s : Spelling} :
    s.nearest.IsUnusable ↔
      s = .nan ∨ s = .infinite false ∨
        ∃ n e, s = decimal false n e ∧ overflow ≤ (n : ℚ) * 10 ^ e := by
  cases s with
  | nan => exact iff_of_true (.inl rfl) (.inl rfl)
  | infinite negative =>
    constructor
    · rintro (⟨⟨⟩⟩ | ⟨⟨⟩⟩)
      exact .inr (.inl rfl)
    · rintro (⟨⟨⟩⟩ | ⟨⟨⟩⟩ | ⟨n, e, ⟨⟩, -⟩)
      exact .inr rfl
  | decimal negative n e =>
    have hiff : (nearest (decimal negative n e)).IsUnusable ↔
        negative = false ∧ overflow ≤ (n : ℚ) * 10 ^ e := by
      rcases nearest_cases negative n e with ⟨hle, h⟩ | ⟨-, hlt, m, q, -, h⟩ | ⟨hle, h⟩
      · have hlt := hle.trans_lt underflow_lt_overflow
        rw [h]
        exact iff_of_false (by rintro (⟨⟨⟩⟩ | ⟨⟨⟩⟩)) fun hlarge => absurd hlarge.2 (not_le.mpr hlt)
      · rw [h]
        exact iff_of_false (by rintro (⟨⟨⟩⟩ | ⟨⟨⟩⟩)) fun hlarge => absurd hlarge.2 (not_le.mpr hlt)
      · rw [h]
        constructor
        · rintro (⟨⟨⟩⟩ | ⟨⟨⟩⟩)
          exact ⟨rfl, hle⟩
        · rintro ⟨rfl, -⟩
          exact .inr rfl
    rw [hiff]
    constructor
    · rintro ⟨rfl, hle⟩
      exact .inr (.inr ⟨n, e, rfl, hle⟩)
    · rintro (⟨⟨⟩⟩ | ⟨⟨⟩⟩ | ⟨n, e, ⟨⟩, hle⟩)
      exact ⟨rfl, hle⟩

end Spelling

end Double

namespace Settings

open Double (Spells underflow overflow)

/-! ## The numbers that values stand for -/

/-- The number that a value stands for. -/
inductive StandsFor : Value → Double → Prop
  | bool (b : Bool) : StandsFor (.bool b) (Double.ofInt (if b then 1 else 0))
  | int {n : ℤ} (hn : n.natAbs < (2 ^ 54 - 1) * 2 ^ 970) : StandsFor (.int n) (Double.ofInt n)
  | float (x : Double) : StandsFor (.float x) x
  | text {t : Text} {s : Double.Spelling} (ht : Spells t s) : StandsFor (.text t) s.nearest

theorem secondsOf_eq_ok_iff (source : Text) {v : Value} {x : Double} :
    secondsOf source v = .ok x ↔ StandsFor v x := by
  unfold secondsOf
  cases v with
  | bool b =>
    constructor
    · rintro ⟨⟩
      exact .bool b
    · rintro ⟨⟩
      rfl
  | int n =>
    dsimp only
    split_ifs with hinfinite
    · refine iff_of_false (by rintro ⟨⟩) fun h => ?_
      have hlarge := (Double.ofInt_isInfinite_iff n).mp hinfinite
      cases h with
      | int hn => omega
    · constructor
      · rintro ⟨⟩
        exact .int (not_le.mp fun h => hinfinite ((Double.ofInt_isInfinite_iff n).mpr h))
      · rintro ⟨⟩
        rfl
  | float x =>
    constructor
    · rintro ⟨⟩
      exact .float x
    · rintro ⟨⟩
      rfl
  | text t =>
    have hread := Double.ofText?_eq_some_iff (t := t) (x := x)
    dsimp only
    cases hs : Double.ofText? t with
    | none =>
      rw [hs] at hread
      refine iff_of_false (by rintro ⟨⟩) fun h => ?_
      cases h with
      | text ht => cases hread.mpr ⟨_, ht, rfl⟩
    | some y =>
      rw [hs] at hread
      dsimp only
      constructor
      · rintro ⟨⟩
        obtain ⟨s, ht, rfl⟩ := hread.mp rfl
        exact .text ht
      · intro h
        cases h with
        | text ht =>
          obtain rfl : y = _ := Option.some.inj (hread.mpr ⟨_, ht, rfl⟩)
          rfl
  | missing => exact iff_of_false (by rintro ⟨⟩) (by rintro ⟨⟩)
  | moment m => exact iff_of_false (by rintro ⟨⟩) (by rintro ⟨⟩)
  | array vs => exact iff_of_false (by rintro ⟨⟩) (by rintro ⟨⟩)
  | table es => exact iff_of_false (by rintro ⟨⟩) (by rintro ⟨⟩)

/-- The values that stand for zero. -/
inductive Vanishes : Value → Prop
  | bool : Vanishes (.bool false)
  | int : Vanishes (.int 0)
  | float {x : Double} (hx : x.isZero = true) : Vanishes (.float x)
  | text {t : Text} {negative : Bool} {n : ℕ} {e : ℤ} (ht : Spells t (.decimal negative n e))
    (hle : (n : ℚ) * 10 ^ e ≤ underflow) : Vanishes (.text t)

/-- The values that stand for an infinity or for no number, and are no fault. -/
inductive Unusable : Value → Prop
  | float {x : Double} (hx : x.IsUnusable) : Unusable (.float x)
  | nan {t : Text} (ht : Spells t .nan) : Unusable (.text t)
  | infinity {t : Text} (ht : Spells t (.infinite false)) : Unusable (.text t)
  | decimal {t : Text} {n : ℕ} {e : ℤ} (ht : Spells t (.decimal false n e))
    (hle : overflow ≤ (n : ℚ) * 10 ^ e) : Unusable (.text t)

theorem lt_bound {n : ℕ} (hn : n ≤ 1) : n < (2 ^ 54 - 1) * 2 ^ 970 := by
  have hpos : ∀ e : ℕ, 1 < (2 ^ 54 - 1) * 2 ^ e := by
    intro e
    have := Nat.two_pow_pos e
    omega
  exact hn.trans_lt (hpos 970)

theorem vanishes_iff {v : Value} : Vanishes v ↔ ∃ x, StandsFor v x ∧ x.isZero = true := by
  constructor
  · intro h
    cases h with
    | bool => exact ⟨_, .bool false, rfl⟩
    | int => exact ⟨_, .int (lt_bound (by decide)), (Double.ofInt_isZero_iff 0).mpr rfl⟩
    | float hx => exact ⟨_, .float _, hx⟩
    | text ht hle => exact ⟨_, .text ht, Double.Spelling.nearest_isZero_iff.mpr ⟨_, _, _, rfl, hle⟩⟩
  · rintro ⟨x, hstands, hzero⟩
    cases hstands with
    | bool b =>
      cases b with
      | true => exact absurd ((Double.ofInt_isZero_iff 1).mp hzero) (by decide)
      | false => exact .bool
    | int hn =>
      obtain rfl := (Double.ofInt_isZero_iff _).mp hzero
      exact .int
    | float x => exact .float hzero
    | text ht =>
      obtain ⟨negative, n, e, rfl, hle⟩ := Double.Spelling.nearest_isZero_iff.mp hzero
      exact .text ht hle

theorem unusable_iff {v : Value} : Unusable v ↔ ∃ x, StandsFor v x ∧ x.IsUnusable := by
  constructor
  · intro h
    cases h with
    | float hx => exact ⟨_, .float _, hx⟩
    | nan ht => exact ⟨_, .text ht, .inl rfl⟩
    | infinity ht => exact ⟨_, .text ht, .inr rfl⟩
    | decimal ht hle =>
      exact ⟨_, .text ht, Double.Spelling.nearest_isUnusable_iff.mpr (.inr (.inr ⟨_, _, rfl, hle⟩))⟩
  · rintro ⟨x, hstands, hx⟩
    cases hstands with
    | bool b => exact absurd hx (Double.not_isUnusable_ofInt (lt_bound (by cases b <;> decide)))
    | int hn => exact absurd hx (Double.not_isUnusable_ofInt hn)
    | float x => exact .float hx
    | text ht =>
      rcases Double.Spelling.nearest_isUnusable_iff.mp hx with rfl | rfl | ⟨n, e, rfl, hle⟩
      · exact .nan ht
      · exact .infinity ht
      · exact .decimal ht hle

/-- What is accepted: nothing and the empty text, and the numbers that are not negative. -/
theorem parseTimeout_eq_ok_iff (source : Text) {v : Value} {seconds : Option Double} :
    parseTimeout source v = .ok seconds ↔
      seconds = none ∧ (v = .missing ∨ v = .text []) ∨
        ∃ x, StandsFor v x ∧ x.isNegative = false ∧
          seconds = if x.isZero then none else some x := by
  have hempty : ∀ x, ¬StandsFor (.text []) x := by
    intro x h
    cases h with
    | text ht => cases Double.ofText?_eq_some_iff.mpr ⟨_, ht, rfl⟩
  have hmissing : ∀ x, ¬StandsFor .missing x := by
    rintro x ⟨⟩
  unfold parseTimeout
  split
  next =>
    constructor
    · rintro ⟨⟩
      exact .inl ⟨rfl, .inl rfl⟩
    · rintro (⟨rfl, -⟩ | ⟨x, hx, -⟩)
      · rfl
      · exact absurd hx (hmissing x)
  next =>
    constructor
    · rintro ⟨⟩
      exact .inl ⟨rfl, .inr rfl⟩
    · rintro (⟨rfl, -⟩ | ⟨x, hx, -⟩)
      · rfl
      · exact absurd hx (hempty x)
  next hne hne' =>
    have hnot : ¬(seconds = none ∧ (v = .missing ∨ v = .text [])) :=
      fun h => h.2.elim hne hne'
    rw [or_iff_right hnot]
    simp only [← secondsOf_eq_ok_iff source]
    cases secondsOf source v with
    | error e => simp
    | ok x =>
      dsimp only
      by_cases hneg : x.isNegative = true
      · rw [if_pos hneg]
        refine iff_of_false (by rintro ⟨⟩) ?_
        rintro ⟨y, ⟨⟩, hy, -⟩
        rw [hneg] at hy
        cases hy
      · rw [if_neg hneg]
        constructor
        · rintro ⟨⟩
          exact ⟨x, rfl, Bool.eq_false_of_not_eq_true hneg, rfl⟩
        · rintro ⟨y, ⟨⟩, -, rfl⟩
          rfl

theorem parseTimeout_eq_none_iff (source : Text) {v : Value} :
    parseTimeout source v = .ok none ↔ v = .missing ∨ v = .text [] ∨ Vanishes v := by
  rw [parseTimeout_eq_ok_iff, vanishes_iff]
  constructor
  · rintro (⟨-, hv⟩ | ⟨x, hx, -, hnone⟩)
    · exact hv.imp_right .inl
    · cases hzero : x.isZero with
      | true => exact .inr (.inr ⟨x, hx, hzero⟩)
      | false =>
        rw [hzero] at hnone
        cases hnone
  · rintro (hv | hv | ⟨x, hx, hzero⟩)
    · exact .inl ⟨rfl, .inl hv⟩
    · exact .inl ⟨rfl, .inr hv⟩
    · exact .inr ⟨x, hx, Double.isNegative_of_isZero hzero, by rw [if_pos hzero]⟩

theorem parseTimeout_eq_some_iff (source : Text) {v : Value} {x : Double} :
    parseTimeout source v = .ok (some x) ↔
      StandsFor v x ∧ x.isNegative = false ∧ x.isZero = false := by
  rw [parseTimeout_eq_ok_iff]
  constructor
  · rintro (⟨⟨⟩, -⟩ | ⟨y, hy, hneg, hsome⟩)
    cases hzero : y.isZero with
    | true =>
      rw [hzero] at hsome
      cases hsome
    | false =>
      rw [hzero] at hsome
      cases hsome
      exact ⟨hy, hneg, hzero⟩
  · rintro ⟨hx, hneg, hzero⟩
    exact .inr ⟨x, hx, hneg, by rw [hzero]; rfl⟩

/-! ## What should come of a timeout -/

/-- What should come of a timeout: a configuration error, no timeout for a value that is missing, empty
or zero, or a finite number of seconds above zero. -/
inductive TimeoutSettled (source : Text) (v : Value) : Prop
  | reported {c : ConfigurationError} (h : parseTimeout source v = .error (.configuration c))
  | unlimited (h : parseTimeout source v = .ok none)
    (hv : v = .missing ∨ v = .text [] ∨ Vanishes v)
  | limited {x : Double} (h : parseTimeout source v = .ok (some x)) (hx : x.IsPositive)

/-- The outcome is one of these, except for the values that are of no use and those that are not
reported. -/
theorem timeoutSettled_iff (source : Text) (v : Value) :
    TimeoutSettled source v ↔ ¬Unusable v ∧ ∀ e, ¬UnreportedTimeout v e := by
  rw [unusable_iff]
  constructor
  · intro h
    refine ⟨?_, fun e he => ?_⟩
    · rintro ⟨x, hx, hunusable⟩
      have hsome : parseTimeout source v = .ok (some x) :=
        (parseTimeout_eq_some_iff source).mpr ⟨hx, hunusable.isNegative, hunusable.isZero⟩
      cases h with
      | reported h => cases hsome.symm.trans h
      | unlimited h => cases hsome.symm.trans h
      | limited h hpositive =>
        cases hsome.symm.trans h
        exact hpositive.not_isUnusable hunusable
    · obtain ⟨herror, hnot⟩ := (parseTimeout_unreported_iff source).mpr he
      cases h with
      | reported h => exact hnot ⟨_, Except.error.inj (herror.symm.trans h)⟩
      | unlimited h => cases herror.symm.trans h
      | limited h => cases herror.symm.trans h
  · rintro ⟨husable, hreported⟩
    cases hparse : parseTimeout source v with
    | error e =>
      by_cases he : IsReported e
      · obtain ⟨c, rfl⟩ := he
        exact .reported hparse
      · exact absurd ((parseTimeout_unreported_iff source).mp ⟨hparse, he⟩) (hreported e)
    | ok seconds =>
      cases seconds with
      | none => exact .unlimited hparse ((parseTimeout_eq_none_iff source).mp hparse)
      | some x =>
        obtain ⟨hx, hneg, hzero⟩ := (parseTimeout_eq_some_iff source).mp hparse
        rcases Double.isPositive_or_isUnusable hneg hzero with hpositive | hunusable
        · exact .limited hparse hpositive
        · exact absurd ⟨x, hx, hunusable⟩ husable

/-- **What comes of a timeout**, for every value.  It is a configuration error, no timeout for a value
that is missing, empty or zero, or a finite number of seconds above zero, except that an infinity and
no number are accepted, for which no program can be waited, and that some faults are not reported.  These
faults leave out the interpreter's recursion limit, which a value nested very deep can reach. -/
theorem parseTimeout_settled (source : Text) (v : Value) :
    (TimeoutSettled source v ↔ ¬Unusable v ∧ ∀ e, ¬UnreportedTimeout v e) ∧
      (Unusable v ↔ ∃ x, parseTimeout source v = .ok (some x) ∧ x.IsUnusable) ∧
      (∀ x, x.IsUnusable → Run.Patience.of (some x) .impossible = .impossible) ∧
      (∀ e, UnreportedTimeout v e ↔ parseTimeout source v = .error e ∧ ¬IsReported e) ∧
      (parseTimeout source v = .ok none ↔ v = .missing ∨ v = .text [] ∨ Vanishes v) := by
  refine ⟨timeoutSettled_iff source v, ?_, fun x hx => ?_,
    fun e => (parseTimeout_unreported_iff source).symm, parseTimeout_eq_none_iff source⟩
  · rw [unusable_iff]
    constructor
    · rintro ⟨x, hx, hunusable⟩
      exact ⟨x, (parseTimeout_eq_some_iff source).mpr
        ⟨hx, hunusable.isNegative, hunusable.isZero⟩, hunusable⟩
    · rintro ⟨x, hparse, hunusable⟩
      exact ⟨x, ((parseTimeout_eq_some_iff source).mp hparse).1, hunusable⟩
  · unfold Run.Patience.of
    dsimp only
    rw [hx.isZero, hx.ofSeconds_eq]
    rfl

/-- The word for infinity is accepted. -/
theorem parseTimeout_settled_infinity :
    parseTimeout "src".toList (.text "inf".toList) = .ok (some (.infinite false)) ∧
      ¬∀ source v, TimeoutSettled source v := by
  have hspells : Spells "inf".toList (.infinite false) :=
    ⟨"inf".toList, by decide, .infinity (by decide)⟩
  refine ⟨(parseTimeout_eq_some_iff _).mpr ⟨.text hspells, rfl, rfl⟩, fun hclaim => ?_⟩
  obtain ⟨husable, -⟩ := (timeoutSettled_iff _ _).mp (hclaim "src".toList (.text "inf".toList))
  exact husable (.infinity hspells)

end Settings

end Literate

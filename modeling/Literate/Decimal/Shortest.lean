import Literate.Decimal.Double
import Literate.Text.Digit

/-!
# Writing numbers

Two forms of a number: the fewest digits that read back to it, and a fixed number of significant
digits.

* `Shortest.digits` chooses the digits: the first decimal grid with a point in the interval of reals
  that round to the number, of two points the nearer, and of two equally near the even one.
* `Double.shortest` is that in positional notation from `0.0001` up to 16 digits before the point.
* `Double.general` has six significant digits, less the zeros at the end.
-/

namespace Literate

open Text

/-- Decimal digits `0.d₁d₂… · 10 ^ point`. -/
structure Digits where
  digits : Text
  point : Int
  deriving DecidableEq, Repr

namespace Shortest

/-- The power of ten above `num / den`, found by going down from `k`. -/
def pointBelow (num den : Nat) : Nat → Int → Int
  | 0, k => k
  | fuel + 1, k =>
    -- num / den < 10 ^ (k - 1)
    let below :=
      if 1 ≤ k then num < den * tenTo (k - 1) else num * tenTo (1 - k) < den
    if below then pointBelow num den fuel (k - 1) else k

/-- The `k` with `10 ^ (k - 1) ≤ num / den < 10 ^ k`. -/
def pointOf (num den : Nat) : Int :=
  if den ≤ num then ((numeral (num / den)).length : Int) else pointBelow num den 400 0

/-- Numerator and denominator of `num / den / 10 ^ e`. -/
def tenScale (num den : Nat) (e : Int) : Nat × Nat :=
  if 0 ≤ e then (num, den * tenTo e) else (num * tenTo (-e), den)

/-- The interval of reals that round to `m · 2 ^ q`, with the number itself, in quarters of the last
place: below, number, above. -/
def quarters (m : Nat) (q : Int) : Nat × Nat × Nat :=
  let lower := if m = Double.leastMantissa ∧ q ≠ Double.minExponent then 4 * m - 1 else 4 * m - 2
  (lower, 4 * m, 4 * m + 2)

/-- Whether the decimal `d · 10 ^ e` rounds to `m · 2 ^ q`. -/
def readsBack (m : Nat) (q : Int) (d : Nat) (e : Int) : Bool :=
  let (lower, _, upper) := quarters m q
  -- both sides as multiples of 2 ^ (q - 2)
  let (n, den) := Double.scale (if 0 ≤ e then d * tenTo e else d)
    (if 0 ≤ e then 1 else tenTo (-e)) (q - 2)
  if m % 2 = 0 then lower * den ≤ n && n ≤ upper * den else lower * den < n && n < upper * den

/-- The digits on the first grid, from `n` digits on, that has a point which reads back. -/
def search (m : Nat) (q : Int) (num den : Nat) (point : Int) : Nat → Nat → Digits
  | 0, n =>
    let (a, b) := tenScale num den (point - n)
    ⟨numeral (roundDiv a b), point⟩
  | fuel + 1, n =>
    let e := point - n
    let (a, b) := tenScale num den e
    let d := a / b
    let low := readsBack m q d e
    let high := readsBack m q (d + 1) e
    if !low && !high then search m q num den point fuel (n + 1)
    else
      let nearLow := 2 * (a % b) < b || (2 * (a % b) = b && d % 2 = 0)
      let chosen := if low && (!high || nearLow) then d else d + 1
      ⟨numeral chosen, e + (numeral chosen).length⟩

/-- The fewest digits that read back to `m · 2 ^ q`. -/
def digits (m : Nat) (q : Int) : Digits :=
  let (num, den) := Double.ratio m q
  let found := search m q num den (pointOf num den) 17 1
  { found with digits := dropEndWhile (· == '0') found.digits }

/-- `n` significant digits of `m · 2 ^ q`, less the zeros at the end. -/
def significant (n : Nat) (m : Nat) (q : Int) : Digits :=
  let (num, den) := Double.ratio m q
  let point := pointOf num den
  let (a, b) := tenScale num den (point - n)
  let d := numeral (roundDiv a b)
  ⟨dropEndWhile (· == '0') d, point - n + d.length⟩

end Shortest

namespace Digits

/-- Positional notation, with `fraction` in place of an empty fraction. -/
def positional (fraction : Text) (d : Digits) : Text :=
  if d.point ≤ 0 then '0' :: '.' :: List.replicate (-d.point).toNat '0' ++ d.digits
  else
    let n := d.point.toNat
    let whole := d.digits.take n ++ List.replicate (n - d.digits.length) '0'
    let rest := d.digits.drop n
    if rest.isEmpty then whole ++ fraction else whole ++ '.' :: rest

/-- Notation with an exponent of at least two digits. -/
def scientific (d : Digits) : Text :=
  let e := d.point - 1
  let exponent := numeral e.natAbs
  let mantissa := d.digits.take 1 ++ (if d.digits.length ≤ 1 then [] else '.' :: d.digits.drop 1)
  mantissa ++ 'e' :: (if e < 0 then '-' else '+')
    :: List.replicate (2 - exponent.length) '0' ++ exponent

end Digits

namespace Double

/-- The sign of a written number. -/
def sign (negative : Bool) : Text := if negative then ['-'] else []

/-- The fewest digits that read back to the number; the point is kept when there is no exponent. -/
def shortest : Double → Text
  | nan => ['n', 'a', 'n']
  | infinite negative => sign negative ++ ['i', 'n', 'f']
  | finite negative 0 _ => sign negative ++ ['0', '.', '0']
  | finite negative m q =>
    let d := Shortest.digits m q
    sign negative ++
      if -4 < d.point ∧ d.point ≤ 16 then d.positional ['.', '0'] else d.scientific

/-- Six significant digits, less the zeros at the end. -/
def general : Double → Text
  | nan => ['n', 'a', 'n']
  | infinite negative => sign negative ++ ['i', 'n', 'f']
  | finite negative 0 _ => sign negative ++ ['0']
  | finite negative m q =>
    let d := Shortest.significant 6 m q
    sign negative ++ if -4 < d.point ∧ d.point ≤ 6 then d.positional [] else d.scientific

end Double

end Literate

/-!
# Double precision

Numbers of 53 significant bits: a sign and `m · 2 ^ q`, an infinity, or not a number.  A quotient is
rounded to the nearest of them, a tie to the one whose last bit is zero.

* `roundDiv` rounds a quotient to the nearest integer, ties to even.
* `Double.ofRatio` rounds a quotient to 53 bits.
-/

namespace Literate

/-- The integer nearest to `num / den`; of two, the even one. -/
def roundDiv (num den : Nat) : Nat :=
  let q := num / den
  let r := num % den
  if 2 * r < den then q
  else if den < 2 * r then q + 1
  else if q % 2 = 0 then q else q + 1

/-- The power of two with an exponent that is not negative. -/
def twoTo (e : Int) : Nat := Nat.pow 2 e.toNat

/-- The power of ten with an exponent that is not negative. -/
def tenTo (e : Int) : Nat := Nat.pow 10 e.toNat

/-- A number of double precision. -/
inductive Double
  | nan
  | infinite (negative : Bool)
  /-- The number `m · 2 ^ q`, with its sign. -/
  | finite (negative : Bool) (m : Nat) (q : Int)
  deriving DecidableEq, Repr

namespace Double

/-- The least exponent. -/
def minExponent : Int := -1074

/-- The greatest exponent. -/
def maxExponent : Int := 971

/-- The least number of 53 bits. -/
def leastMantissa : Nat := Nat.pow 2 52

/-- Numerator and denominator of `num / den / 2 ^ q`. -/
def scale (num den : Nat) (q : Int) : Nat × Nat :=
  if 0 ≤ q then (num, den * twoTo q) else (num * twoTo (-q), den)

/-- The exponent at which `num / den` has 53 bits before the point, or the least one. -/
def exponentFor (num den : Nat) : Int :=
  let guess : Int := (Nat.log2 num : Int) - (Nat.log2 den : Int) - 52
  let (n, d) := scale num den guess
  let q := if n < leastMantissa * d then guess - 1 else guess
  if q < minExponent then minExponent else q

/-- The number nearest to `num / den`. -/
def ofRatio (negative : Bool) (num den : Nat) : Double :=
  if num = 0 then finite negative 0 minExponent
  else
    let q := exponentFor num den
    let (n, d) := scale num den q
    let m := roundDiv n d
    let (m, q) := if m = 2 * leastMantissa then (leastMantissa, q + 1) else (m, q)
    if maxExponent < q then infinite negative else finite negative m q

/-- The number nearest to an integer. -/
def ofInt (n : Int) : Double := ofRatio (n < 0) n.natAbs 1

/-- Whether the number is zero, of either sign. -/
def isZero : Double → Bool
  | finite _ 0 _ => true
  | _ => false

/-- Whether the number is less than zero. -/
def isNegative : Double → Bool
  | nan => false
  | infinite negative => negative
  | finite negative m _ => negative && m != 0

/-- Whether the number is an infinity. -/
def isInfinite : Double → Bool
  | infinite _ => true
  | _ => false

/-- Numerator and denominator of the magnitude `m · 2 ^ q`. -/
def ratio (m : Nat) (q : Int) : Nat × Nat :=
  if 0 ≤ q then (m * twoTo q, 1) else (m, twoTo (-q))

end Double

end Literate

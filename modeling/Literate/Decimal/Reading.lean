import Literate.Decimal.Double
import Literate.Text.Digit

/-!
# Reading decimal numbers

A number may have blanks around it, a sign, digits of any alphabet with single underscores between
them, a point and an exponent; or it is one of the words for infinity and not a number, in any case.
-/

namespace Literate

open Text

namespace Double

/-- Digits of any alphabet become ASCII digits and blanks beyond ASCII become spaces. -/
def normalize (t : Text) : Text :=
  t.map fun c =>
    if c.toNat < 128 then c
    else if isBlank c then ' '
    else
      match digitValue? c with
      | some d => Char.ofNat (48 + d)
      | none => '?'

/-- The blanks of ASCII, less the information separators. -/
def isOuterBlank (c : Char) : Bool := c = ' ' || (9 ≤ c.toNat && c.toNat ≤ 13)

/-- Removes underscores, each of which must stand between two digits. -/
def dropUnderscores (previous : Char) : Text → Option Text
  | [] => if previous = '_' then none else some []
  | c :: r =>
    if c = '_' then
      if previous.isDigit then dropUnderscores c r else none
    else if previous = '_' && !c.isDigit then none
    else (dropUnderscores c r).map (c :: ·)

/-- The value of decimal digits. -/
def digitsValue (t : Text) : Nat := t.foldl (fun n c => 10 * n + (c.toNat - 48)) 0

/-- A sign, and what follows it. -/
def takeSign : Text → Bool × Text
  | '-' :: r => (true, r)
  | '+' :: r => (false, r)
  | r => (false, r)

/-- The exponent at the end of a number; a missing one is zero. -/
def exponent? : Text → Option Int
  | [] => some 0
  | c :: r =>
    if c = 'e' || c = 'E' then
      let (negative, digits) := takeSign r
      if digits.isEmpty || !digits.all Char.isDigit then none
      else some (if negative then -(digitsValue digits : Int) else digitsValue digits)
    else none

/-- The number `digits · 10 ^ e`.  Far outside the range of doubles the power is not formed. -/
def ofDecimal (negative : Bool) (digits : Text) (e : Int) : Double :=
  let significant := digits.dropWhile (· == '0')
  let n := digitsValue significant
  let size := (significant.length : Int) + e
  if n = 0 then finite negative 0 minExponent
  else if 400 < size then infinite negative
  else if size < -400 then finite negative 0 minExponent
  else if 0 ≤ e then ofRatio negative (n * tenTo e) 1
  else ofRatio negative n (tenTo (-e))

/-- Reads a number without a sign. -/
def ofUnsigned? (negative : Bool) (t : Text) : Option Double :=
  let word := t.map Char.toLower
  if word = ['i', 'n', 'f'] || word = ['i', 'n', 'f', 'i', 'n', 'i', 't', 'y'] then
    some (infinite negative)
  else if word = ['n', 'a', 'n'] then some nan
  else
    let whole := t.takeWhile Char.isDigit
    let rest := t.dropWhile Char.isDigit
    let (fraction, rest) :=
      match rest with
      | '.' :: r => (r.takeWhile Char.isDigit, r.dropWhile Char.isDigit)
      | r => ([], r)
    if whole.isEmpty && fraction.isEmpty then none
    else (exponent? rest).map fun e => ofDecimal negative (whole ++ fraction) (e - fraction.length)

/-- Reads a number.  Model of the conversion of a text in `config.parse_timeout`. -/
def ofText? (t : Text) : Option Double :=
  let trimmed := dropEndWhile isOuterBlank ((normalize t).dropWhile isOuterBlank)
  match dropUnderscores '\x00' trimmed with
  | none => none
  | some s =>
    let (negative, rest) := takeSign s
    ofUnsigned? negative rest

end Double

end Literate

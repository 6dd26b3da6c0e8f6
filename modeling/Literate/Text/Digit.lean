import Literate.Text.Basic

/-!
# Decimal digits

The decimal digits of all alphabets: each alphabet has ten of them in a row, so a table of the zeros
says which characters are digits and what they are worth.
-/

namespace Literate.Text

/-- The code points of the digits zero. -/
def zeros : List Nat :=
  [0x30, 0x660, 0x6f0, 0x7c0, 0x966, 0x9e6, 0xa66, 0xae6, 0xb66, 0xbe6, 0xc66, 0xce6, 0xd66, 0xde6,
   0xe50, 0xed0, 0xf20, 0x1040, 0x1090, 0x17e0, 0x1810, 0x1946, 0x19d0, 0x1a80, 0x1a90, 0x1b50,
   0x1bb0, 0x1c40, 0x1c50, 0xa620, 0xa8d0, 0xa900, 0xa9d0, 0xa9f0, 0xaa50, 0xabf0, 0xff10, 0x104a0,
   0x10d30, 0x11066, 0x110f0, 0x11136, 0x111d0, 0x112f0, 0x11450, 0x114d0, 0x11650, 0x116c0,
   0x11730, 0x118e0, 0x11950, 0x11c50, 0x11d50, 0x11da0, 0x16a60, 0x16ac0, 0x16b50, 0x1d7ce,
   0x1d7d8, 0x1d7e2, 0x1d7ec, 0x1d7f6, 0x1e140, 0x1e2f0, 0x1e950, 0x1fbf0]

/-- The value of a decimal digit of any alphabet. -/
def digitValue? (c : Char) : Option Nat :=
  (zeros.find? fun z => z ≤ c.toNat && c.toNat < z + 10).map (c.toNat - ·)

/-- A decimal digit of any alphabet. -/
def isDigit (c : Char) : Bool := (digitValue? c).isSome

/-- The decimal numeral of a number. -/
def numeral (n : Nat) : Text := Nat.toDigits 10 n

/-- The decimal numeral of an integer. -/
def signedNumeral : Int → Text
  | .ofNat n => numeral n
  | .negSucc n => '-' :: numeral (n + 1)

/-- The most digits that a decimal numeral may have to be read or written as a number. -/
def numeralLimit : Nat := 4300

/-- A decimal numeral over the limit. -/
inductive NumeralError
  /-- A numeral with so many digits is read. -/
  | reading (digits : Nat)
  | writing
  deriving DecidableEq, Repr

/-- The error as shown. -/
def NumeralError.message : NumeralError → String
  | reading digits =>
    "Exceeds the limit (4300 digits) for integer string conversion: value has "
      ++ (numeral digits).toStr ++ " digits; use sys.set_int_max_str_digits() to increase the limit"
  | writing =>
    "Exceeds the limit (4300 digits) for integer string conversion; "
      ++ "use sys.set_int_max_str_digits() to increase the limit"

end Literate.Text

import Literate.Text.Basic

/-!
# Base 64

Three bytes are written as four characters of six bits each; equals signs fill up the last group.
-/

namespace Literate.Base64

/-- The 64 characters in order of their value. -/
def alphabet : Text := "ABCDEFGHIJKLMNOPQRSTUVWXYZabcdefghijklmnopqrstuvwxyz0123456789+/".toList

/-- The character of six bits. -/
def digit (n : Nat) : Char := alphabet[n % 64]?.getD 'A'

/-- The text of some bytes, given as numbers. -/
def encode : List Nat → Text
  | a :: b :: c :: rest =>
    digit (a / 4) :: digit (a % 4 * 16 + b / 16) :: digit (b % 16 * 4 + c / 64) :: digit (c % 64)
      :: encode rest
  | [a, b] => [digit (a / 4), digit (a % 4 * 16 + b / 16), digit (b % 16 * 4), '=']
  | [a] => [digit (a / 4), digit (a % 4 * 16), '=', '=']
  | [] => []

end Literate.Base64

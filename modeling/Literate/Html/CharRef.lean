import Literate.Html.CharRef.Names
import Literate.Text.Basic

/-!
# Character references

Names and numbers that stand for characters.

* `CharRef.named?` looks a name up.
* `CharRef.ofNumber` is the character a number stands for between tags, `CharRef.ofAttributeNumber`
  inside an attribute value.
* `CharRef.unescape` reads an attribute value.
-/

namespace Literate.Html.CharRef

open Text

/-- The value of a digit in base sixteen. -/
def hexValue? (c : Char) : Option Nat :=
  let n := c.toNat
  if 48 ≤ n && n ≤ 57 then some (n - 48)
  else if 97 ≤ n && n ≤ 102 then some (n - 87)
  else if 65 ≤ n && n ≤ 70 then some (n - 55)
  else none

/-- Whether a character is a digit in base sixteen. -/
def isHexDigit (c : Char) : Bool := (hexValue? c).isSome

/-- The number written with digits in a base; other characters count as zero. -/
def numberOf (base : Nat) (digits : Text) : Nat :=
  digits.foldl (fun n c => n * base + (hexValue? c).getD 0) 0

/-- A name, whether it may stand without a semicolon, and what it stands for. -/
structure Entry where
  name : Text
  isBare : Bool
  value : Text

/-- Reads an entry of the list of names. -/
def entryOf (t : Text) : Entry :=
  let name := t.takeWhile fun c => !(c = '=' || c = ':')
  let rest := t.drop name.length
  { name
    isBare := rest.head? == some ':'
    value := (pieces '+' (rest.drop 1)).map fun n => Char.ofNat (numberOf 16 n) }

/-- The references to the characters that markup is made of; they stand first because most
references are to them. -/
def markupEntries : List Entry :=
  [⟨['a', 'm', 'p'], true, ['&']⟩, ⟨['l', 't'], true, ['<']⟩, ⟨['g', 't'], true, ['>']⟩,
   ⟨['q', 'u', 'o', 't'], true, ['"']⟩]

/-- The named references. -/
def entries : List Entry := markupEntries ++ (words charNames.toList).map entryOf

/-- What a name stands for. -/
def named? (name : Text) : Option Text := (entries.find? (·.name == name)).map Entry.value

/-- What a name without a semicolon stands for. -/
def bare? (name : Text) : Option Text :=
  (entries.find? fun e => e.isBare && e.name == name).map Entry.value

/-- The characters that the numbers from 128 to 159 stand for. -/
def western : List Nat :=
  [0x20ac, 0x81, 0x201a, 0x192, 0x201e, 0x2026, 0x2020, 0x2021, 0x2c6, 0x2030, 0x160, 0x2039, 0x152,
   0x8d, 0x17d, 0x8f, 0x90, 0x2018, 0x2019, 0x201c, 0x201d, 0x2022, 0x2013, 0x2014, 0x2dc, 0x2122,
   0x161, 0x203a, 0x153, 0x9d, 0x17e, 0x178]

/-- Stands in for what cannot be represented. -/
def replacement : Char := '\uFFFD'

/-- Whether a number is no code point. -/
def isOutside (n : Nat) : Bool := (0xd800 ≤ n && n ≤ 0xdfff) || 0x10ffff < n

/-- Whether a code point is set aside for no character. -/
def isUnassigned (n : Nat) : Bool :=
  (0xfdd0 ≤ n && n ≤ 0xfdef) || n % 0x10000 == 0xffff || n % 0x10000 == 0xfffe

/-- The character a number stands for between tags. -/
def ofNumber (n : Nat) : Char :=
  if 0x80 ≤ n && n ≤ 0x9f then Char.ofNat (western.getD (n - 0x80) n)
  else if isOutside n then replacement
  else Char.ofNat n

/-- What a number stands for inside an attribute value; controls stand for nothing. -/
def ofAttributeNumber (n : Nat) : Text :=
  if n = 0 then [replacement]
  else if 0x80 ≤ n && n ≤ 0x9f then [Char.ofNat (western.getD (n - 0x80) n)]
  else if isOutside n then [replacement]
  else if n ≤ 8 || n == 0xb || (0xe ≤ n && n ≤ 0x1f) || n == 0x7f || isUnassigned n then []
  else [Char.ofNat n]

/-- Drops one semicolon. -/
def dropSemicolon : Text → Text
  | ';' :: r => r
  | r => r

/-- The longest beginning of a name, of at most `n` and at least two characters, that may stand
without a semicolon: what it stands for, and its length. -/
def longestBare? (name : Text) : Nat → Option (Text × Nat)
  | 0 => none
  | n + 1 =>
    if n < 1 then none
    else
      match bare? (name.take (n + 1)) with
      | some v => some (v, n + 1)
      | none => longestBare? name n

/-- Reads a reference whose ampersand stands before the text: what it stands for and what follows. -/
def ofValue? (t : Text) : Option (Text × Text) :=
  match t with
  | '#' :: r =>
    let hex := r.head? == some 'x' || r.head? == some 'X'
    let isDigit := if hex then isHexDigit else Char.isDigit
    let digits := (if hex then r.drop 1 else r).takeWhile isDigit
    if digits.isEmpty then none
    else
      let rest := r.drop (digits.length + if hex then 1 else 0)
      some (ofAttributeNumber (numberOf (if hex then 16 else 10) digits), dropSemicolon rest)
  | _ =>
    let name := (t.takeWhile fun c =>
      !(c = '\t' || c = '\n' || c.toNat = 12 || c = ' ' || c = '<' || c = '&' || c = '#' || c = ';')).take 32
    let rest := t.drop name.length
    if name.isEmpty then none
    else
      match rest with
      | ';' :: after =>
        match named? name with
        | some v => some (v, after)
        | none =>
          match longestBare? name name.length with
          | some (v, n) => some (v ++ name.drop n ++ [';'], after)
          | none => some ('&' :: name ++ [';'], after)
      | _ =>
        match bare? name with
        | some v => some (v, rest)
        | none =>
          match longestBare? name (name.length - 1) with
          | some (v, n) => some (v ++ name.drop n, rest)
          | none => some ('&' :: name, rest)

/-- Reads an attribute value; `fuel` bounds the number of steps. -/
def unescapeFrom : Nat → Text → Text
  | 0, t => t
  | fuel + 1, t =>
    match t with
    | [] => []
    | '&' :: r =>
      match ofValue? r with
      | some (v, rest) => v ++ unescapeFrom fuel rest
      | none => '&' :: unescapeFrom fuel r
    | c :: r => c :: unescapeFrom fuel r

/-- Reads an attribute value. -/
def unescape (t : Text) : Text := unescapeFrom (t.length + 1) t

end Literate.Html.CharRef

import Literate.Html.CharRef
import Literate.Markdown.Address
import Literate.Text.Case
import Literate.Text.Punctuation
import Literate.Text.UpperCase

/-!
# Links

The parts that links, images and link definitions share: destinations, titles, labels, and the
definitions that labels refer to.

* `unescape` reads backslashes and character references.
* `destination?`, `title?` read the two parts.
* `labelKey` is what two labels have in common when they mean the same.
-/

namespace Literate.Markdown

open Text

/-- Where a link leads, and what is shown about it. -/
structure LinkTarget where
  destination : Text
  title : Text
  deriving DecidableEq, Repr

/-- Targets by the keys of their labels; the first definition of a label counts. -/
abbrev Definitions := List (Text × LinkTarget)

/-- Whether a number may be written as a reference. -/
def isCodePoint (n : Nat) : Bool :=
  !(Html.CharRef.isOutside n || Html.CharRef.isUnassigned n || n ≤ 8 || n == 0xb
    || (0xe ≤ n && n ≤ 0x1f) || (0x7f ≤ n && n ≤ 0x9f))

/-- The number that stands between an ampersand with a hash and a semicolon, with at most so many
decimal and so many other digits. -/
def numberBody? (decimals others : Nat) (t : Text) : Option Nat :=
  match t with
  | [] => none
  | c :: r =>
    if c = 'x' || c = 'X' then
      if !r.isEmpty && r.length ≤ others && r.all Html.CharRef.isHexDigit then
        some (Html.CharRef.numberOf 16 r)
      else none
    else if t.length ≤ decimals && t.all Char.isDigit then some (Html.CharRef.numberOf 10 t)
    else none

/-- What a reference stands for, between its ampersand and its semicolon. -/
def referenceValue? (name : Text) : Option Text :=
  match name with
  | '#' :: number =>
    match numberBody? 8 8 number with
    | some n => if isCodePoint n then some [Char.ofNat n] else none
    | none => none
  | _ => Html.CharRef.named? name

/-- Whether a text is made like the name of a reference. -/
def isReferenceName (t : Text) : Bool :=
  match t with
  | [] => false
  | c :: r => (c.isAlpha || c = '#') && 1 ≤ r.length && r.length ≤ 31 && r.all Char.isAlphanum

/-- Reads backslashes before punctuation and character references. -/
def unescapeFrom : Nat → Text → Text
  | 0, t => t
  | _, [] => []
  | fuel + 1, '\\' :: c :: r =>
    if isAsciiPunctuation c then c :: unescapeFrom fuel r else '\\' :: unescapeFrom fuel (c :: r)
  | fuel + 1, '&' :: r =>
    match cut ';' r with
    | (name, some rest) =>
      if isReferenceName name then
        (referenceValue? name).getD ('&' :: name ++ [';']) ++ unescapeFrom fuel rest
      else '&' :: unescapeFrom fuel r
    | (_, none) => '&' :: unescapeFrom fuel r
  | fuel + 1, c :: r => c :: unescapeFrom fuel r

/-- Reads backslashes before punctuation and character references. -/
def unescape (t : Text) : Text := unescapeFrom t.length t

/-- What stands between angle brackets, the first of which was read, and what follows. -/
def angled? : Text → Option (Text × Text)
  | [] => none
  | '\n' :: _ => none
  | '<' :: _ => none
  | '>' :: rest => some ([], rest)
  | '\\' :: c :: r => (angled? r).map fun (t, rest) => ('\\' :: c :: t, rest)
  | c :: r => (angled? r).map fun (t, rest) => (c :: t, rest)

/-- The deepest nesting of parentheses in a destination. -/
def nestingLimit : Nat := 32

/-- A destination without angle brackets and what follows; `level` parentheses are open. -/
def bare? (level : Nat) : Text → Option (Text × Text)
  | [] => if level = 0 then some ([], []) else none
  | '\\' :: c :: r =>
    if c = ' ' then if level = 0 then some ([], '\\' :: c :: r) else none
    else (bare? level r).map fun (t, rest) => ('\\' :: c :: t, rest)
  | c :: r =>
    if c.toNat ≤ 32 || c.toNat = 127 || (c = ')' && level = 0) then
      if level = 0 then some ([], c :: r) else none
    else if c = '(' && nestingLimit ≤ level then none
    else
      let level := if c = '(' then level + 1 else if c = ')' then level - 1 else level
      (bare? level r).map fun (t, rest) => (c :: t, rest)

/-- The destination at the front of a text and what follows. -/
def destination? (t : Text) : Option (Text × Text) :=
  match t with
  | '<' :: r => (angled? r).map fun (d, rest) => (unescape d, rest)
  | _ =>
    match bare? 0 t with
    | some (d, rest) => if d.isEmpty then none else some (unescape d, rest)
    | none => none

/-- A title up to its closing mark, and what follows. -/
def titleEnd? (mark : Char) : Text → Option (Text × Text)
  | [] => none
  | '\\' :: c :: r => (titleEnd? mark r).map fun (t, rest) => ('\\' :: c :: t, rest)
  | c :: r =>
    if c = mark then some ([], r)
    else if c = '(' && mark = ')' then none
    else (titleEnd? mark r).map fun (t, rest) => (c :: t, rest)

/-- The title at the front of a text and what follows. -/
def title? : Text → Option (Text × Text)
  | '"' :: r => (titleEnd? '"' r).map fun (t, rest) => (unescape t, rest)
  | '\'' :: r => (titleEnd? '\'' r).map fun (t, rest) => (unescape t, rest)
  | '(' :: r => (titleEnd? ')' r).map fun (t, rest) => (unescape t, rest)
  | _ => none

/-- What two labels have in common when they mean the same. -/
def labelKey (label : Text) : Text := upper (lower (join [' '] (words label)))

/-- Whether a character is a gap or a newline. -/
def isSpace (c : Char) : Bool := isGap c || c = '\n'

end Literate.Markdown

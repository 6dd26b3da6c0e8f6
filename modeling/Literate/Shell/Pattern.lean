import Literate.Shell.Command

/-!
# Patterns

File name patterns, in which an asterisk stands for any text, and basic regular expressions.

* `Glob` is a pattern of file names, `Glob.accepts` matches a whole text.
* `Regex.ofText` reads a regular expression, `Regex.find?` searches a text.
-/

namespace Literate.Shell

open Text

/-- A set of characters in brackets: single ones and ranges. -/
structure CharSet where
  negated : Bool
  ranges : List (Char × Char)
  deriving Repr

namespace CharSet

/-- Whether a character is in the set. -/
def holds (s : CharSet) (c : Char) : Bool :=
  s.ranges.any (fun (a, b) => a.toNat ≤ c.toNat && c.toNat ≤ b.toNat) != s.negated

/-- The ranges of a named class. -/
def classRanges (name : Octets) : List (Char × Char) :=
  match name.toStr with
  | "digit" => [('0', '9')]
  | "lower" => [('a', 'z')]
  | "upper" => [('A', 'Z')]
  | "alpha" => [('a', 'z'), ('A', 'Z')]
  | "alnum" => [('a', 'z'), ('A', 'Z'), ('0', '9')]
  | "space" => [('\t', '\r'), (' ', ' ')]
  | "blank" => [('\t', '\t'), (' ', ' ')]
  | "punct" => [('!', '/'), (':', '@'), ('[', '\x60'), ('\x7b', '~')]
  | "xdigit" => [('0', '9'), ('a', 'f'), ('A', 'F')]
  | _ => []

/-- The items of a set up to its closing bracket, and what follows. -/
def items? (first : Bool) : Nat → Octets → Option (List (Char × Char) × Octets)
  | 0, _ => none
  | _, [] => none
  | fuel + 1, c :: r =>
    if c = ']' && !first then some ([], r)
    else
      match c, r with
      | '[', ':' :: r' =>
        let name := r'.takeWhile Char.isAlpha
        match r'.drop name.length with
        | ':' :: ']' :: rest =>
          (items? false fuel rest).map fun (is, rest) => (classRanges name ++ is, rest)
        | _ => (items? false fuel r).map fun (is, rest) => ((c, c) :: is, rest)
      | _, '-' :: d :: rest =>
        if d = ']' then (items? false fuel r).map fun (is, rest) => ((c, c) :: is, rest)
        else (items? false fuel rest).map fun (is, rest) => ((c, d) :: is, rest)
      | _, _ => (items? false fuel r).map fun (is, rest) => ((c, c) :: is, rest)

/-- The set whose opening bracket was read, and what follows. -/
def ofText? (t : Octets) : Option (CharSet × Octets) :=
  let (negated, body) :=
    match t with
    | '!' :: r => (true, r)
    | '^' :: r => (true, r)
    | r => (false, r)
  (items? true (body.length + 1) body).map fun (ranges, rest) => (⟨negated, ranges⟩, rest)

end CharSet

/-! ## File name patterns -/

/-- A piece of a file name pattern. -/
inductive GlobPiece
  | char (c : Char)
  | any
  | one
  | set (s : CharSet)

/-- A file name pattern. -/
abbrev Glob := List GlobPiece

namespace Glob

/-- Reads the unquoted part of a pattern. -/
def ofPlain : Nat → Octets → Glob
  | 0, _ => []
  | _, [] => []
  | fuel + 1, c :: r =>
    match c with
    | '*' => .any :: ofPlain fuel r
    | '?' => .one :: ofPlain fuel r
    | '[' =>
      match CharSet.ofText? r with
      | some (s, rest) => .set s :: ofPlain fuel rest
      | none => .char c :: ofPlain fuel r
    | _ => .char c :: ofPlain fuel r

/-- Whether a pattern can stand for more than one text. -/
def isPattern (g : Glob) : Bool :=
  g.any fun p =>
    match p with
    | .char _ => false
    | _ => true

/-- Whether a pattern stands for a text. -/
def accepts : Nat → Glob → Octets → Bool
  | 0, _, _ => false
  | _, [], t => t.isEmpty
  | fuel + 1, p :: g, t =>
    match p, t with
    | .any, [] => accepts fuel g []
    | .any, _ :: r => accepts fuel g t || accepts fuel (p :: g) r
    | .char a, c :: r => a = c && accepts fuel g r
    | .one, _ :: r => accepts fuel g r
    | .set s, c :: r => s.holds c && accepts fuel g r
    | _, [] => false

/-- Whether a pattern stands for a text. -/
def matchesText (g : Glob) (t : Octets) : Bool := accepts (g.length + t.length + 1) g t

/-- The text without the shortest or longest start that a pattern stands for. -/
def trimStart (longest : Bool) (g : Glob) (t : Octets) : Octets :=
  let sizes := List.range (t.length + 1)
  match (if longest then sizes.reverse else sizes).find? fun n => matchesText g (t.take n) with
  | some n => t.drop n
  | none => t

/-- The text without the shortest or longest end that a pattern stands for. -/
def trimEnd (longest : Bool) (g : Glob) (t : Octets) : Octets :=
  let sizes := List.range (t.length + 1)
  match (if longest then sizes else sizes.reverse).find? fun n => matchesText g (t.drop n) with
  | some n => t.take n
  | none => t

end Glob

/-! ## Regular expressions -/

/-- One character of a regular expression. -/
inductive RegexAtom
  | char (c : Char)
  | any
  | set (s : CharSet)

/-- How often an atom stands. -/
inductive Repeat
  | once
  | star
  | plus
  | maybe

/-- A piece of a regular expression. -/
inductive RegexPiece
  | atom (a : RegexAtom) (times : Repeat)
  | start
  | stop

/-- A regular expression without groups. -/
abbrev Regex := List RegexPiece

namespace Regex

/-- How often the atom in front of a text stands, and what follows. -/
def repeat? (extended : Bool) : Octets → Repeat × Octets
  | '*' :: r => (.star, r)
  | '\\' :: '+' :: r => if extended then (.once, '\\' :: '+' :: r) else (.plus, r)
  | '\\' :: '?' :: r => if extended then (.once, '\\' :: '?' :: r) else (.maybe, r)
  | '+' :: r => if extended then (.plus, r) else (.once, '+' :: r)
  | '?' :: r => if extended then (.maybe, r) else (.once, '?' :: r)
  | r => (.once, r)

/-- Reads a regular expression. -/
def ofTextFrom (extended first : Bool) : Nat → Octets → Regex
  | 0, _ => []
  | _, [] => []
  | fuel + 1, c :: r =>
    let atom (a : RegexAtom) (rest : Octets) : Regex :=
      let (times, rest) := repeat? extended rest
      .atom a times :: ofTextFrom extended false fuel rest
    match c with
    | '^' => if first || extended then .start :: ofTextFrom extended false fuel r else atom (.char c) r
    | '$' => if r.isEmpty || extended then .stop :: ofTextFrom extended false fuel r else atom (.char c) r
    | '.' => atom .any r
    | '[' =>
      match CharSet.ofText? r with
      | some (s, rest) => atom (.set s) rest
      | none => atom (.char c) r
    | '\\' =>
      match r with
      | 'n' :: r => atom (.char '\n') r
      | 't' :: r => atom (.char '\t') r
      | d :: r => atom (.char d) r
      | [] => atom (.char c) []
    | _ => atom (.char c) r

/-- Reads a regular expression. -/
def ofText (extended : Bool) (t : Octets) : Regex := ofTextFrom extended true (t.length + 1) t

/-- Whether an atom stands for a character. -/
def atomHolds (ignoreCase : Bool) : RegexAtom → Char → Bool
  | .char a, c => if ignoreCase then a.toLower = c.toLower else a = c
  | .any, _ => true
  | .set s, c => s.holds c || (ignoreCase && (s.holds c.toLower || s.holds c.toUpper))

/-- The length of the start of a text that an expression stands for; the most is taken first. -/
def length? (ignoreCase atStart : Bool) : Nat → Regex → Octets → Option Nat
  | 0, _, _ => none
  | _, [], _ => some 0
  | fuel + 1, p :: e, t =>
    let one (a : RegexAtom) (e' : Regex) : Option Nat :=
      match t with
      | c :: r => if atomHolds ignoreCase a c then (length? ignoreCase false fuel e' r).map (· + 1) else none
      | [] => none
    match p with
    | .start => if atStart then length? ignoreCase atStart fuel e t else none
    | .stop => if t.isEmpty then length? ignoreCase atStart fuel e t else none
    | .atom a .once => one a e
    | .atom a .plus => one a (.atom a .star :: e)
    | .atom a .star => (one a (.atom a .star :: e)).or (length? ignoreCase atStart fuel e t)
    | .atom a .maybe => (one a e).or (length? ignoreCase atStart fuel e t)

/-- The first place at which an expression stands for something: what is before it, and its length. -/
def findFrom (ignoreCase : Bool) (e : Regex) (atStart : Bool) : Octets → Option (Octets × Nat)
  | [] => (length? ignoreCase atStart (2 * e.length + 2) e []).map fun n => ([], n)
  | c :: r =>
    match length? ignoreCase atStart (2 * (e.length + r.length) + 8) e (c :: r) with
    | some n => some ([], n)
    | none => (findFrom ignoreCase e false r).map fun (before, n) => (c :: before, n)

/-- The first place of a line at which an expression stands for something. -/
def find? (ignoreCase : Bool) (e : Regex) (t : Octets) : Option (Octets × Nat) :=
  findFrom ignoreCase e true t

end Regex

end Literate.Shell

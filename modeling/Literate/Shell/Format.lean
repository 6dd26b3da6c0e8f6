import Literate.Shell.Command
import Literate.Text.Digit

/-!
# Formatted output

What `echo` and `printf` write.

* `Format.escapes` reads backslashes.
* `Format.print` fills a format with arguments, again and again while there are some left.
-/

namespace Literate.Shell.Format

open Text

/-- The value of a digit in a base of at most sixteen, if it is one. -/
def digitValue? (base : Nat) (c : Char) : Option Nat :=
  let n := c.toNat
  let v := if c.isDigit then n - 48 else if 'a' ≤ c && c ≤ 'f' then n - 87 else if 'A' ≤ c && c ≤ 'F' then n - 55 else 99
  if v < base then some v else none

/-- The number that at most so many digits at the front of a text stand for, and what follows. -/
def digitsAt (base : Nat) : Nat → Nat → Octets → Nat × Octets
  | 0, n, t => (n, t)
  | _, n, [] => (n, [])
  | most + 1, n, c :: r =>
    match digitValue? base c with
    | some v => digitsAt base most (n * base + v) r
    | none => (n, c :: r)

/-- What a backslash, which was read, starts: what it stands for, whether output ends there, and what
follows.  Octal numbers begin with a zero where `zero` is set. -/
def escapeAt (zero : Bool) : Octets → Octets × Bool × Octets
  | [] => (['\\'], false, [])
  | c :: r =>
    match c with
    | 'a' => ([Char.ofNat 7], false, r)
    | 'b' => ([Char.ofNat 8], false, r)
    | 'c' => ([], true, [])
    | 'e' => ([Char.ofNat 27], false, r)
    | 'f' => ([Char.ofNat 12], false, r)
    | 'n' => (['\n'], false, r)
    | 'r' => (['\r'], false, r)
    | 't' => (['\t'], false, r)
    | 'v' => ([Char.ofNat 11], false, r)
    | '\\' => (['\\'], false, r)
    | 'x' =>
      let (n, rest) := digitsAt 16 2 0 r
      if rest.length = r.length then (['\\', 'x'], false, r) else ([Char.ofNat n], false, rest)
    | '0' =>
      let (n, rest) := digitsAt 8 (if zero then 3 else 2) 0 r
      ([Char.ofNat (n % 256)], false, rest)
    | _ =>
      if !zero && (digitValue? 8 c).isSome then
        let (n, rest) := digitsAt 8 3 0 (c :: r)
        ([Char.ofNat (n % 256)], false, rest)
      else (['\\', c], false, r)

/-- A text with its backslashes read, and whether output ends there. -/
def escapes (zero : Bool) : Nat → Octets → Octets × Bool
  | 0, _ => ([], false)
  | _, [] => ([], false)
  | fuel + 1, '\\' :: r =>
    let (t, ends, rest) := escapeAt zero r
    if ends then (t, true)
    else
      let (more, ends) := escapes zero fuel rest
      (t ++ more, ends)
  | fuel + 1, c :: r =>
    let (more, ends) := escapes zero fuel r
    (c :: more, ends)

/-- A text in a field of a width. -/
def pad (left zero : Bool) (width : Nat) (t : Octets) : Octets :=
  let fill := width - t.length
  if left then t ++ List.replicate fill ' '
  else if zero then
    match t with
    | '-' :: r => '-' :: List.replicate fill '0' ++ r
    | _ => List.replicate fill '0' ++ t
  else List.replicate fill ' ' ++ t

/-- The integer at the front of a text, and whether all of the text was one. -/
def integer (t : Octets) : Int × Bool :=
  match t with
  | '\'' :: c :: _ => (c.toNat, true)
  | '"' :: c :: _ => (c.toNat, true)
  | _ =>
    let t := t.dropWhile fun c => c = ' ' || c = '\t' || c = '\n'
    let (negative, t) :=
      match t with
      | '-' :: r => (true, r)
      | '+' :: r => (false, r)
      | r => (false, r)
    let (n, rest, found) :=
      match t with
      | '0' :: 'x' :: r =>
        let (n, rest) := digitsAt 16 r.length 0 r
        (n, rest, !r.isEmpty)
      | '0' :: r =>
        let (n, rest) := digitsAt 8 r.length 0 r
        (n, rest, true)
      | r =>
        let (n, rest) := digitsAt 10 r.length 0 r
        (n, rest, rest.length < r.length)
    (if negative then -(n : Int) else n, found && rest.isEmpty)

/-- The digits of a number in a base. -/
def inBase (base : Nat) (upperCase : Bool) (n : Nat) : Octets :=
  (Nat.toDigits base n).map fun c => if upperCase then c.toUpper else c

/-- One directive of a format. -/
structure Directive where
  left : Bool
  zero : Bool
  plus : Bool
  width : Nat
  precision : Option Nat
  conversion : Char

/-- The directive after a percent sign, and what follows; an asterisk takes its number from the
arguments. -/
def directive? (args : List Octets) (t : Octets) : Option (Directive × List Octets × Octets) :=
  let flags := t.takeWhile fun c => "-0+ #".toList.contains c
  let t := t.drop flags.length
  let number (args : List Octets) (t : Octets) : Nat × List Octets × Octets :=
    match t with
    | '*' :: r => ((integer (args.headD [])).1.toNat, args.drop 1, r)
    | _ =>
      let (n, rest) := digitsAt 10 t.length 0 t
      (n, args, rest)
  let (width, args, t) := number args t
  let (precision, args, t) :=
    match t with
    | '.' :: r =>
      let (n, args, r) := number args r
      (some n, args, r)
    | _ => (none, args, t)
  match t with
  | c :: rest =>
    some (⟨flags.contains '-', flags.contains '0', flags.contains '+', width, precision, c⟩, args, rest)
  | [] => none

/-- What a directive writes for an argument, whether output ends there, and whether the argument was
well formed. -/
def fill (d : Directive) (arg : Octets) : Octets × Bool × Bool :=
  let (n, fine) := if arg.isEmpty then (0, true) else integer arg
  let signed (t : Octets) : Octets :=
    if n < 0 then '-' :: t else if d.plus then '+' :: t else t
  let number (t : Octets) : Octets := List.replicate (d.precision.getD 0 - t.length) '0' ++ t
  let whole := (n % 18446744073709551616).toNat
  match d.conversion with
  | 'd' | 'i' =>
    (pad d.left (d.zero && d.precision.isNone) d.width (signed (number (numeral n.natAbs))), false, fine)
  | 'u' => (pad d.left d.zero d.width (number (numeral whole)), false, fine)
  | 'x' => (pad d.left d.zero d.width (number (inBase 16 false whole)), false, fine)
  | 'X' => (pad d.left d.zero d.width (number (inBase 16 true whole)), false, fine)
  | 'o' => (pad d.left d.zero d.width (number (inBase 8 false whole)), false, fine)
  | 'c' => (pad d.left false d.width (arg.take 1), false, true)
  | 'b' =>
    let (t, ends) := escapes true (arg.length + 1) arg
    (pad d.left false d.width t, ends, true)
  | _ =>
    let t := match d.precision with
      | some n => arg.take n
      | none => arg
    (pad d.left false d.width t, false, true)

/-- What comes of one pass over a format: the output, the arguments left, whether an argument was
taken, whether output ends there, and whether all was well formed. -/
structure Pass where
  out : Octets
  args : List Octets
  took : Bool
  ends : Bool
  fine : Bool

/-- One pass over a format. -/
def pass : Nat → List Octets → Octets → Pass
  | 0, args, _ => ⟨[], args, false, true, true⟩
  | _, args, [] => ⟨[], args, false, false, true⟩
  | fuel + 1, args, c :: r =>
    match c, r with
    | '\\', _ =>
      let (t, ends, rest) := escapeAt false r
      if ends then ⟨t, args, false, true, true⟩
      else
        let p := pass fuel args rest
        { p with out := t ++ p.out }
    | '%', '%' :: rest =>
      let p := pass fuel args rest
      { p with out := '%' :: p.out }
    | '%', _ =>
      match directive? args r with
      | none => ⟨['%'], args, false, true, false⟩
      | some (d, args, rest) =>
        let (t, ends, fine) := fill d (args.headD [])
        if ends then ⟨t, args.drop 1, true, true, fine⟩
        else
          let p := pass fuel (args.drop 1) rest
          { p with out := t ++ p.out, took := true, fine := p.fine && fine }
    | _, _ =>
      let p := pass fuel args r
      { p with out := c :: p.out }

/-- A format filled with arguments, and whether all was well formed. -/
def print (format : Octets) : Nat → List Octets → Octets × Bool
  | 0, _ => ([], true)
  | fuel + 1, args =>
    let p := pass (format.length + 1) args format
    if p.ends || p.args.isEmpty || !p.took then (p.out, p.fine)
    else
      let (more, fine) := print format fuel p.args
      (p.out ++ more, p.fine && fine)

end Literate.Shell.Format

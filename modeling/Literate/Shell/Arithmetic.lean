import Literate.Shell.Format
import Literate.Shell.Reader

/-!
# Arithmetic of the shell

Integer expressions.  A value is read together with the assignments that reading it makes.

* `Arithmetic.eval?` is the value of an expression.
-/

namespace Literate.Shell.Arithmetic

open Text

/-- The names and values that an expression finds. -/
abbrev Names := List (Octets × Int)

/-- A value, the names from then on, and the rest of the expression. -/
abbrev Read := Option (Int × Names × Octets)

/-- Drops blanks. -/
def skip (t : Octets) : Octets := t.dropWhile fun c => isSpacing c || c = '\n'

/-- The binary operators with how strongly they bind; longer ones come first. -/
def operators : List (String × Nat) :=
  [("<<", 8), (">>", 8), ("<=", 7), (">=", 7), ("==", 6), ("!=", 6), ("&&", 2), ("||", 1), ("+", 9),
   ("-", 9), ("*", 10), ("/", 10), ("%", 10), ("<", 7), (">", 7), ("&", 5), ("^", 4), ("|", 3)]

/-- The operator at the front of a text, how strongly it binds, and what follows. -/
def operator? (t : Octets) : Option (String × Nat × Octets) :=
  operators.findSome? fun (op, strength) =>
    (afterPrefix? op.toList t).map fun rest => (op, strength, rest)

/-- One for what holds and zero for what does not. -/
def truth (b : Bool) : Int := if b then 1 else 0

/-- The value of an operator; there is none for a division by zero. -/
def operate? (op : String) (a b : Int) : Option Int :=
  match op with
  | "+" => some (a + b)
  | "-" => some (a - b)
  | "*" => some (a * b)
  | "/" => if b = 0 then none else some (Int.tdiv a b)
  | "%" => if b = 0 then none else some (Int.tmod a b)
  | "<<" => some (a * Int.pow 2 b.toNat)
  | ">>" => some (Int.fdiv a (Int.pow 2 b.toNat))
  | "<" => some (truth (a < b))
  | ">" => some (truth (b < a))
  | "<=" => some (truth (a ≤ b))
  | ">=" => some (truth (b ≤ a))
  | "==" => some (truth (a = b))
  | "!=" => some (truth (a ≠ b))
  | "&&" => some (truth (a ≠ 0 && b ≠ 0))
  | "||" => some (truth (a ≠ 0 || b ≠ 0))
  | "&" => some (Nat.land a.toNat b.toNat)
  | "^" => some (Nat.xor a.toNat b.toNat)
  | "|" => some (Nat.lor a.toNat b.toNat)
  | _ => none

/-- The number at the front of a text that begins with a digit, and what follows; a leading zero means
base eight, and an `x` after it base sixteen. -/
def number (t : Octets) : Nat × Octets :=
  match t with
  | '0' :: 'x' :: r => Format.digitsAt 16 r.length 0 r
  | '0' :: 'X' :: r => Format.digitsAt 16 r.length 0 r
  | '0' :: r => Format.digitsAt 8 r.length 0 r
  | r => Format.digitsAt 10 r.length 0 r

/-- Sets a name. -/
def set (names : Names) (name : Octets) (value : Int) : Names :=
  (name, value) :: names.filter (·.1 ≠ name)

mutual

/-- Reads an operand. -/
def operand? : Nat → Names → Octets → Read
  | 0, _, _ => none
  | fuel + 1, names, t =>
    match skip t with
    | [] => none
    | '(' :: r =>
      match expression? fuel names 0 r with
      | some (v, names, rest) =>
        match skip rest with
        | ')' :: rest => some (v, names, rest)
        | _ => none
      | none => none
    | '-' :: r => (operand? fuel names r).map fun (v, names, rest) => (-v, names, rest)
    | '+' :: r => operand? fuel names r
    | '!' :: r => (operand? fuel names r).map fun (v, names, rest) => (truth (v = 0), names, rest)
    | '~' :: r => (operand? fuel names r).map fun (v, names, rest) => (-v - 1, names, rest)
    | c :: r =>
      if c.isDigit then
        let (n, rest) := number (c :: r)
        some (n, names, rest)
      else
        let name := nameAt (c :: r)
        let rest := (c :: r).drop name.length
        let value := (names.lookup name).getD 0
        if name.isEmpty then none
        else
          match skip rest with
          | '+' :: '+' :: rest => some (value, set names name (value + 1), rest)
          | '-' :: '-' :: rest => some (value, set names name (value - 1), rest)
          | '=' :: '=' :: _ => some (value, names, rest)
          | '=' :: rest =>
            (expression? fuel names 0 rest).map fun (v, names, rest) => (v, set names name v, rest)
          | op :: '=' :: rest' =>
            if "+-*/%".toList.contains op then
              match expression? fuel names 0 rest' with
              | some (v, names, rest) =>
                (operate? (String.singleton op) value v).map fun v => (v, set names name v, rest)
              | none => none
            else some (value, names, rest)
          | _ => some (value, names, rest)

/-- Reads an expression whose operators bind more strongly than `least`. -/
def expression? : Nat → Names → Nat → Octets → Read
  | 0, _, _, _ => none
  | fuel + 1, names, least, t =>
    match operand? fuel names t with
    | none => none
    | some (v, names, rest) => more? fuel v names least rest

/-- Goes on with an expression after its first operand. -/
def more? : Nat → Int → Names → Nat → Octets → Read
  | 0, _, _, _, _ => none
  | fuel + 1, v, names, least, t =>
    match operator? (skip t) with
    | some (op, strength, rest) =>
      if strength ≤ least then some (v, names, t)
      else
        match expression? fuel names strength rest with
        | none => none
        | some (w, names, rest) =>
          match operate? op v w with
          | none => none
          | some v => more? fuel v names least rest
    | none =>
      match skip t with
      | '?' :: rest =>
        if least ≠ 0 then some (v, names, t)
        else
          match expression? fuel names 0 rest with
          | some (yes, names, rest) =>
            match skip rest with
            | ':' :: rest =>
              (expression? fuel names 0 rest).map fun (no, names, rest) =>
                (if v ≠ 0 then yes else no, names, rest)
            | _ => none
          | none => none
      | _ => some (v, names, t)

end

/-- The value of an expression and the names from then on; an empty one is zero. -/
def eval? (names : Names) (t : Octets) : Option (Int × Names) :=
  if (skip t).isEmpty then some (0, names)
  else
    match expression? (4 * t.length + 16) names 0 t with
    | some (v, names, rest) => if (skip rest).isEmpty then some (v, names) else none
    | none => none

end Literate.Shell.Arithmetic

import Literate.Shell.Utility.Basic

/-!
# Utilities on names and numbers

Utilities that compute with their arguments, and the one that waits.
-/

namespace Literate.Shell

open Text

namespace Utility

/-- The last part of a path, without an ending. -/
def basename (c : Call) : Outcome :=
  let name := dropEndWhile (· == '/') (c.args.headD [])
  let base := (pieces '/' name).getLast?.getD []
  let ending := c.args.getD 1 []
  let base := if name.isEmpty then ['/'] else base
  done c ((if endsWith ending base && base ≠ ending then base.take (base.length - ending.length) else base)
    ++ ['\n'])

/-- The path without its last part. -/
def dirname (c : Call) : Outcome :=
  let name := dropEndWhile (· == '/') (c.args.headD [])
  let parts := pieces '/' name
  let dir :=
    if parts.length ≤ 1 then if (c.args.headD []).head? = some '/' then ['/'] else ['.']
    else
      let d := dropEndWhile (· == '/') (join ['/'] parts.dropLast)
      if d.isEmpty then ['/'] else d
  done c (dir ++ ['\n'])

/-- The integer a text stands for, zero if none. -/
def integerOf (t : Octets) : Int := (Format.integer t).1

/-- The text of an integer. -/
def integerText (n : Int) : Octets := (toString n).toList

/-- Counts from one number to another. -/
def seq (c : Call) : Outcome :=
  let (separator?, args) :=
    match c.args with
    | a :: s :: rest => if a = ['-', 's'] then (some s, rest) else (none, c.args)
    | args => (none, args)
  let (first, step, last) :=
    match args with
    | [b] => (1, 1, integerOf b)
    | [a, b] => (integerOf a, 1, integerOf b)
    | a :: s :: b :: _ => (integerOf a, integerOf s, integerOf b)
    | [] => (1, 1, 0)
  let count := if step = 0 then 0 else ((last - first) / step + 1).toNat
  let ns := (List.range count).map fun (i : Nat) => integerText (first + step * (i : Int))
  match separator? with
  | some s => done c (if ns.isEmpty then [] else join s ns ++ ['\n'])
  | none => done c (ofLines ns)

/-- The time that arguments such as `1.5` and `2m` stand for, in microseconds. -/
def duration (t : Octets) : Nat :=
  let whole := t.takeWhile Char.isDigit
  let rest := t.drop whole.length
  let (fraction, rest) :=
    match rest with
    | '.' :: r => (r.takeWhile Char.isDigit, r.dropWhile Char.isDigit)
    | r => ([], r)
  let unit := match rest with
    | 'm' :: _ => 60
    | 'h' :: _ => 3600
    | 'd' :: _ => 86400
    | _ => 1
  let micros := (Format.digitsAt 10 6 0 (fraction ++ List.replicate (6 - fraction.length) '0')).1
  unit * (1000000 * (Format.digitsAt 10 whole.length 0 whole).1 + micros)

/-- Waits. -/
def sleep (c : Call) : Outcome := ⟨[], [], 0, c.tree, c.args.foldl (fun n a => n + duration a) 0⟩

/-- The environment, or some of its values. -/
def printenv (c : Call) : Outcome :=
  if c.args.isEmpty then done c (ofLines (c.environment.map fun (k, v) => k ++ '=' :: v))
  else
    let found := c.args.filterMap fun a => c.environment.lookup a
    ⟨ofLines found, [], if found.length = c.args.length then 0 else 1, c.tree, 0⟩

/-- The value of a simple expression of three arguments. -/
def expr (c : Call) : Outcome :=
  let answer (t : Octets) : Outcome :=
    ⟨t ++ ['\n'], [], if t.isEmpty || t = ['0'] then 1 else 0, c.tree, 0⟩
  match c.args with
  | [a] => answer a
  | [a, op, b] =>
    let (x, y) := (integerOf a, integerOf b)
    let truth (p : Bool) : Octets := if p then ['1'] else ['0']
    match op.toStr with
    | "+" => answer (integerText (x + y))
    | "-" => answer (integerText (x - y))
    | "*" => answer (integerText (x * y))
    | "/" => if y = 0 then failed c 2 (say "expr: division by zero") else answer (integerText (Int.tdiv x y))
    | "%" => if y = 0 then failed c 2 (say "expr: division by zero") else answer (integerText (Int.tmod x y))
    | "<" => answer (truth (x < y))
    | ">" => answer (truth (y < x))
    | "<=" => answer (truth (x ≤ y))
    | ">=" => answer (truth (y ≤ x))
    | "=" => answer (truth (a = b))
    | "!=" => answer (truth (a ≠ b))
    | _ => failed c 2 (say "expr: syntax error")
  | _ => failed c 2 (say "expr: syntax error")

end Utility

end Literate.Shell

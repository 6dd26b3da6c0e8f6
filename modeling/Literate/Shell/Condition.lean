import Literate.Shell.Session

/-!
# Conditions of the shell

What `test` and brackets decide.

* `Condition.holds?` is the answer, if the condition is well formed.
-/

namespace Literate.Shell.Condition

open Text

/-- An integer, if the text is one. -/
def integer? (t : Octets) : Option Int :=
  let t := trim t
  let digits := match t with
    | '-' :: r => r
    | '+' :: r => r
    | r => r
  if digits.isEmpty || !digits.all Char.isDigit then none
  else
    let n : Int := (Format.digitsAt 10 digits.length 0 digits).1
    some (if t.head? = some '-' then -n else n)

/-- Whether something stands at a path, and what. -/
def node? (s : Session) (name : Octets) : Option Node :=
  if name.isEmpty then none
  else
    match s.tree.stat s.cwd (Utility.pathOf name) with
    | .ok n => some n
    | .error _ => none

/-- A condition on one operand. -/
def unary? (s : Session) (op : String) (x : Octets) : Option Bool :=
  let node := node? s x
  match op with
  | "-n" => some !x.isEmpty
  | "-z" => some x.isEmpty
  | "-e" | "-r" | "-w" => some node.isSome
  | "-d" | "-x" => some (node = some .directory)
  | "-f" => some (node.isSome && node ≠ some .directory)
  | "-s" =>
    some
      (match node with
        | some (.file content) => 0 < content.length
        | some .directory => true
        | none => false)
  | "-L" | "-h" | "-p" | "-t" => some false
  | _ => none

/-- A condition on two operands. -/
def binary? (op : String) (a b : Octets) : Option Bool :=
  let number (f : Int → Int → Bool) : Option Bool :=
    match integer? a, integer? b with
    | some x, some y => some (f x y)
    | _, _ => none
  match op with
  | "=" | "==" => some (a = b)
  | "!=" => some (a ≠ b)
  | "<" => some (a.map Char.toNat < b.map Char.toNat)
  | ">" => some (b.map Char.toNat < a.map Char.toNat)
  | "-eq" => number fun x y => x = y
  | "-ne" => number fun x y => x ≠ y
  | "-lt" => number fun x y => x < y
  | "-le" => number fun x y => x ≤ y
  | "-gt" => number fun x y => y < x
  | "-ge" => number fun x y => y ≤ x
  | _ => none

/-- A condition at the front of words, and the words after it; conjunctions bind more strongly than
disjunctions. -/
def read? (s : Session) (disjunctions : Bool) : Nat → List Octets → Option (Bool × List Octets)
  | 0, _ => none
  | fuel + 1, ws =>
    let first : Option (Bool × List Octets) :=
      match ws with
      | [] => none
      | a :: rest =>
        if a = ['!'] then (read? s false fuel rest).map fun (b, rest) => (!b, rest)
        else if a = ['('] then
          match read? s true fuel rest with
          | some (b, close :: rest) => if close = [')'] then some (b, rest) else none
          | _ => none
        else
          match rest with
          | op :: b :: rest' =>
            match binary? op.toStr a b with
            | some v => some (v, rest')
            | none =>
              match unary? s a.toStr op with
              | some v => some (v, b :: rest')
              | none => some (!a.isEmpty, rest)
          | [x] =>
            match unary? s a.toStr x with
            | some v => some (v, [])
            | none => none
          | [] => some (!a.isEmpty, [])
    match first with
    | none => none
    | some (v, op :: rest) =>
      if op = "-a".toList || op = "&&".toList then
        match read? s false fuel rest with
        | some (w, rest) =>
          match rest with
          | op :: more =>
            if disjunctions && (op = "-o".toList || op = "||".toList) then
              (read? s true fuel more).map fun (u, rest) => ((v && w) || u, rest)
            else some (v && w, rest)
          | [] => some (v && w, [])
        | none => none
      else if disjunctions && (op = "-o".toList || op = "||".toList) then
        (read? s true fuel rest).map fun (w, rest) => (v || w, rest)
      else some (v, op :: rest)
    | some (v, []) => some (v, [])

/-- Whether a condition holds. -/
def holds? (s : Session) (ws : List Octets) : Option Bool :=
  match ws with
  | [] => some false
  | [a] => some !a.isEmpty
  | _ =>
    match read? s true (2 * ws.length + 4) ws with
    | some (v, []) => some v
    | _ => none

end Literate.Shell.Condition

import Literate.Settings.Toml.Quoted
import Literate.Settings.Value

/-!
# Numbers and moments

The values of a configuration file that are written without quotes and brackets: truth values,
integers in four bases, floats, dates and times.

* `Toml.scalar` reads any of them.
-/

namespace Literate.Toml

open Text

/-- Reads runs of digits joined by single underscores, which are dropped. -/
def digitGroups (isDigit : Char → Bool) : Nat → Text → Text × Text
  | 0, t => ([], t)
  | fuel + 1, t =>
    let run := t.takeWhile isDigit
    match t.dropWhile isDigit with
    | '_' :: c :: r =>
      if !run.isEmpty && isDigit c then
        let (more, rest) := digitGroups isDigit fuel (c :: r)
        (run ++ more, rest)
      else (run, '_' :: c :: r)
    | rest => (run, rest)

/-- The value of digits in a base. -/
def baseValue (base : Nat) (digits : Text) : Nat :=
  digits.foldl (fun n c => base * n + (hexValue? c).getD 0) 0

/-- Reads an integer with a base, from its leading zero on. -/
def based? (t : Text) : Option (Value × Text) :=
  match t with
  | '0' :: b :: r =>
    let (base, isDigit) : Nat × (Char → Bool) :=
      if b = 'x' then (16, fun c => (hexValue? c).isSome)
      else if b = 'b' then (2, fun c => c == '0' || c == '1')
      else if b = 'o' then (8, fun c => '0' ≤ c && c ≤ '7')
      else (0, fun _ => false)
    let (digits, rest) := digitGroups isDigit r.length r
    if digits.isEmpty then none else some (.int (baseValue base digits), rest)
  | _ => none

/-- Reads a fraction with its point, if one is there. -/
def fraction (t : Text) : Text × Text :=
  match t with
  | '.' :: r =>
    let (digits, rest) := digitGroups Char.isDigit r.length r
    if digits.isEmpty then ([], t) else ('.' :: digits, rest)
  | _ => ([], t)

/-- Reads an exponent with its letter, if one is there. -/
def exponent (t : Text) : Text × Text :=
  match t with
  | e :: r =>
    if e = 'e' || e = 'E' then
      let (negative, s) := Double.takeSign r
      let (digits, rest) := digitGroups Char.isDigit s.length s
      if digits.isEmpty then ([], t) else ('e' :: Double.sign negative ++ digits, rest)
    else ([], t)
  | [] => ([], [])

/-- Reads a decimal number; an integer may have no more digits than a numeral. -/
def decimal? (t : Text) : Option (Reading Value) :=
  let (negative, r) := Double.takeSign t
  let (whole, rest) :=
    match r with
    | '0' :: s => (['0'], s)
    | s => digitGroups Char.isDigit s.length s
  if whole.isEmpty then none
  else
    let (frac, rest₁) := fraction rest
    let (exp, rest₂) := exponent rest₁
    if frac.isEmpty && exp.isEmpty then
      let n : Int := baseValue 10 whole
      if numeralLimit < whole.length then some (.error (.numeral (.reading whole.length)))
      else some (.ok (.int (if negative then -n else n), rest₂))
    else
      (Double.ofText? (Double.sign negative ++ whole ++ frac ++ exp)).map fun x =>
        .ok (.float x, rest₂)

/-- Reads a special float. -/
def special? (t : Text) : Option (Value × Text) :=
  let (negative, r) := Double.takeSign t
  match afterPrefix? ['i', 'n', 'f'] r with
  | some rest => some (.float (.infinite negative), rest)
  | none => (afterPrefix? ['n', 'a', 'n'] r).map fun rest => (.float .nan, rest)

/-- Reads exactly `count` ASCII digits. -/
def fixedDigits? : Nat → Nat → Text → Option (Nat × Text)
  | 0, n, t => some (n, t)
  | _ + 1, _, [] => none
  | count + 1, n, c :: r =>
    if c.isDigit then fixedDigits? count (10 * n + (c.toNat - 48)) r else none

/-- Reads a two-digit number in a range after a separator. -/
def part? (separator : Char) (low high : Nat) (t : Text) : Option (Nat × Text) :=
  match t with
  | c :: r =>
    if c = separator then
      match fixedDigits? 2 0 r with
      | some (n, rest) => if low ≤ n && n ≤ high then some (n, rest) else none
      | none => none
    else none
  | [] => none

/-- Reads a fraction of a second; only six digits count. -/
def microseconds (t : Text) : Nat × Text :=
  match t with
  | '.' :: r =>
    let digits := r.takeWhile Char.isDigit
    if digits.isEmpty then (0, t)
    else
      let six := digits.take 6
      (baseValue 10 (six ++ List.replicate (6 - six.length) '0'), r.dropWhile Char.isDigit)
  | _ => (0, t)

/-- Reads a time of day. -/
def clock? (t : Text) : Option (Clock × Text) := do
  let (hour, r) ← fixedDigits? 2 0 t
  if 23 < hour then none
  else do
    let (minute, r) ← part? ':' 0 59 r
    let (second, r) ← part? ':' 0 59 r
    let (microsecond, r) := microseconds r
    pure (⟨hour, minute, second, microsecond⟩, r)

/-- Reads an offset, if one is there. -/
def offset (t : Text) : Option Int × Text :=
  match t with
  | c :: r =>
    if c = 'Z' || c = 'z' then (some 0, r)
    else if c = '+' || c = '-' then
      match (do
        let (hour, r) ← fixedDigits? 2 0 r
        let (minute, r) ← part? ':' 0 59 r
        if 23 < hour then none else pure (hour * 60 + minute, r) : Option (Nat × Text)) with
      | some (n, rest) => (some (if c = '-' then -(n : Int) else n), rest)
      | none => (none, t)
    else (none, t)
  | [] => (none, [])

/-- Number of days in a month. -/
def daysIn (year month : Nat) : Nat :=
  if month = 2 then
    if year % 4 = 0 ∧ (year % 100 ≠ 0 ∨ year % 400 = 0) then 29 else 28
  else if month = 4 ∨ month = 6 ∨ month = 9 ∨ month = 11 then 30
  else 31

/-- Reads a date as written, whether or not the calendar has it. -/
def date? (t : Text) : Option (Date × Text) := do
  let (year, r) ← fixedDigits? 4 0 t
  let (month, r) ← part? '-' 1 12 r
  let (day, r) ← part? '-' 1 31 r
  pure (⟨year, month, day⟩, r)

/-- Whether the calendar has a date. -/
def Date.isReal (d : Date) : Bool := 1 ≤ d.year && d.day ≤ daysIn d.year d.month

/-- Reads a moment that begins with a date. -/
def dated (d : Date) (t : Text) : Moment × Text :=
  match t with
  | c :: r =>
    if c = 'T' || c = 't' || c = ' ' then
      match clock? r with
      | none => (.date d, t)
      | some (clock, rest) =>
        let (offset?, rest') := offset rest
        (.both d clock offset?, rest')
    else (.date d, t)
  | [] => (.date d, [])

/-- Reads a truth value. -/
def truth? (t : Text) : Option (Value × Text) :=
  match afterPrefix? ['t', 'r', 'u', 'e'] t with
  | some rest => some (.bool true, rest)
  | none => (afterPrefix? ['f', 'a', 'l', 's', 'e'] t).map fun rest => (.bool false, rest)

/-- Reads a number or a time of day. -/
def numberOrClock? (t : Text) : Option (Reading Value) :=
  match clock? t with
  | some (c, rest) => some (.ok (.moment (.clock c), rest))
  | none =>
    match based? t with
    | some found => some (.ok found)
    | none =>
      match decimal? t with
      | some found => some found
      | none => (special? t).map .ok

/-- Reads a value that is neither text nor array nor table. -/
def scalar (t : Text) : Reading Value :=
  match truth? t with
  | some found => .ok found
  | none =>
    match date? t with
    | some (d, rest) =>
      if Date.isReal d then
        let (m, rest') := dated d rest
        .ok (.moment m, rest')
      else stop .moment t
    | none =>
      match numberOrClock? t with
      | some found => found
      | none => stop .value t

end Literate.Toml

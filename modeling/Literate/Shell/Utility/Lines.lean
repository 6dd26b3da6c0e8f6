import Literate.Shell.Pattern
import Literate.Shell.Utility.Basic

/-!
# Utilities on lines

Utilities that count, choose, order and change the lines of text.
-/

namespace Literate.Shell

open Text

namespace Utility

/-- Counts lines, words and bytes. -/
def wc (c : Call) : Outcome :=
  let (flags, names) := flagsOf c.args
  let (found, err) := readAll c "wc" names
  let wanted (x : Char) : Bool := flags.contains x
  let all := !(wanted 'l' || wanted 'w' || wanted 'c' || wanted 'm')
  let counts (t : Octets) : List Nat :=
    (if all || wanted 'l' then [t.count '\n'] else []) ++
      (if all || wanted 'w' then [(words t).length] else []) ++
      (if wanted 'm' then [(textOf t).length] else []) ++
      if all || wanted 'c' then [t.length] else []
  let rows := found.map fun (name, t) => (name, counts t)
  let rows :=
    if 1 < rows.length then
      let sums := (List.range (counts []).length).map fun i => rows.foldl (fun n r => n + r.2.getD i 0) 0
      rows ++ [(say "total", sums)]
    else rows
  let single := found.length ≤ 1 && ((counts []).length = 1)
  let size (t : Octets) : Nat := t.length
  let width :=
    if single then 0
    else if names.isEmpty || names.contains ['-'] then 7
    else (numeral (found.foldl (fun n (_, t) => n + size t) 0)).length
  let line (name : Octets) (ns : List Nat) : Octets :=
    join [' '] (ns.map fun n => Format.pad false false width (numeral n)) ++
      (if name.isEmpty then [] else ' ' :: name) ++ ['\n']
  ⟨rows.flatMap fun (name, ns) => line name ns, err, if err.isEmpty then 0 else 1, c.tree, 0⟩

/-- The first lines or bytes, or the last. -/
def ends (program : String) (fromStart : Bool) (c : Call) : Outcome :=
  let (bytes?, args) := optionOf 'c' c.args
  let (count?, args) := optionOf 'n' args
  let (short, names) := args.partition fun a =>
    match a with
    | '-' :: d :: _ => d.isDigit
    | _ => false
  let count? := count?.or (short.head?.map (·.drop 1))
  let cutTo (n : Octets) (xs : List Octets) : List Octets :=
    match n with
    | '+' :: m => if fromStart then xs.take (numberOf m) else xs.drop (numberOf m - 1)
    | '-' :: m =>
      if fromStart then xs.take (xs.length - numberOf m) else xs.drop (xs.length - numberOf m)
    | m => if fromStart then xs.take (numberOf m) else xs.drop (xs.length - numberOf m)
  filtered c program names fun t =>
    match bytes? with
    | some n => (cutTo n (t.map fun x => [x])).flatten
    | none => (cutTo (count?.getD (say "10")) ((withEnds t))).flatten

/-- Drops lines that are equal to the one before. -/
def dropRepeated : List Octets → List Octets
  | a :: b :: r => if a = b then dropRepeated (b :: r) else a :: dropRepeated (b :: r)
  | ls => ls

/-- The number at the front of a line. -/
def leadingNumber (l : Octets) : Int :=
  let l := l.dropWhile (· == ' ')
  let (negative, l) := match l with
    | '-' :: r => (true, r)
    | r => (false, r)
  let n := (Format.digitsAt 10 l.length 0 l).1
  if negative then -(n : Int) else n

/-- Sorts lines. -/
def sort (c : Call) : Outcome :=
  let (flags, names) := flagsOf c.args
  filtered c "sort" names fun t =>
    let key (l : Octets) : Octets := if flags.contains 'f' then l.map Char.toUpper else l
    let le (a b : Octets) : Bool :=
      if flags.contains 'n' then
        leadingNumber a < leadingNumber b || (leadingNumber a = leadingNumber b && precedes a b)
      else precedes (key a) (key b)
    let sorted := (linesOf t).mergeSort le
    let sorted := if flags.contains 'r' then sorted.reverse else sorted
    ofLines (if flags.contains 'u' then dropRepeated sorted else sorted)

/-- Runs of equal lines with their lengths. -/
def runs : List Octets → List (Octets × Nat)
  | [] => []
  | l :: r =>
    match runs r with
    | (m, n) :: more => if l = m then (m, n + 1) :: more else (l, 1) :: (m, n) :: more
    | [] => [(l, 1)]

/-- One line for each run of equal lines. -/
def uniq (c : Call) : Outcome :=
  let (flags, names) := flagsOf c.args
  filtered c "uniq" names fun t =>
    (runs (linesOf t)).flatMap fun (l, n) =>
      if flags.contains 'd' && n < 2 || flags.contains 'u' && 1 < n then []
      else if flags.contains 'c' then Format.pad false false 7 (numeral n) ++ ' ' :: l ++ ['\n']
      else l ++ ['\n']

/-- The characters a set of `tr` lists. -/
def trSet : Nat → Octets → Octets
  | 0, _ => []
  | fuel + 1, t =>
    match t with
    | '\\' :: r =>
      let (c, _, rest) := Format.escapeAt false r
      c ++ trSet fuel rest
    | '[' :: ':' :: r =>
      let name := r.takeWhile Char.isAlpha
      match r.drop name.length with
      | ':' :: ']' :: rest =>
        ((CharSet.classRanges name).flatMap fun (a, b) =>
          (List.range (b.toNat + 1 - a.toNat)).map fun i => Char.ofNat (a.toNat + i)) ++ trSet fuel rest
      | _ => '[' :: trSet fuel (':' :: r)
    | a :: '-' :: b :: r =>
      ((List.range (b.toNat + 1 - a.toNat)).map fun i => Char.ofNat (a.toNat + i)) ++ trSet fuel r
    | c :: r => c :: trSet fuel r
    | [] => []

/-- Drops characters of a set that are equal to the one before. -/
def squeeze (set : Octets) (previous : Option Char) : Octets → Octets
  | [] => []
  | c :: r => if previous = some c && set.contains c then squeeze set previous r else c :: squeeze set (some c) r

/-- Replaces, drops or squeezes characters. -/
def tr (c : Call) : Outcome :=
  let (flags, sets) := flagsOf c.args
  let source := sets.headD []
  let first := trSet (source.length + 1) source
  let target := sets.getD 1 []
  let second := trSet (target.length + 1) target
  let inFirst (x : Char) : Bool := first.contains x != (flags.contains 'c' || flags.contains 'C')
  let last := second.getLast?.getD ' '
  let replaceChar (x : Char) : Char :=
    if !inFirst x then x
    else if flags.contains 'c' || flags.contains 'C' then last
    else second.getD ((first.findIdx? (· == x)).getD 0) last
  let mapped :=
    if flags.contains 'd' then c.input.filter fun x => !inFirst x
    else if second.isEmpty then c.input
    else c.input.map replaceChar
  let squeezed :=
    if flags.contains 's' then squeeze (if second.isEmpty then first else second) none mapped else mapped
  done c squeezed

/-- The ranges of a list such as `1,3-5`. -/
def rangesOf (t : Octets) : List (Nat × Nat) :=
  (pieces ',' t).map fun p =>
    match cut '-' p with
    | (a, none) => (numberOf a, numberOf a)
    | (a, some b) => (if a.isEmpty then 1 else numberOf a, if b.isEmpty then 1000000 else numberOf b)

/-- Parts of lines. -/
def cutParts (c : Call) : Outcome :=
  let (separator?, args) := optionOf 'd' c.args
  let (fields?, args) := optionOf 'f' args
  let (chars?, args) := optionOf 'c' args
  let (_, names) := flagsOf args
  let separator := (separator?.bind List.head?).getD '\t'
  let chosen (rs : List (Nat × Nat)) (i : Nat) : Bool := rs.any fun (a, b) => a ≤ i + 1 && i + 1 ≤ b
  filtered c "cut" names fun t =>
    ofLines ((linesOf t).map fun l =>
      match fields?, chars? with
      | some fs, _ =>
        if !l.contains separator then l
        else
          join [separator] (((pieces separator l).zipIdx.filter fun (_, i) => chosen (rangesOf fs) i).map
            Prod.fst)
      | none, some cs => (l.zipIdx.filter fun (_, i) => chosen (rangesOf cs) i).map Prod.fst
      | none, none => l)

/-- Lines that hold what an expression stands for. -/
def grep (c : Call) : Outcome :=
  let (pattern?, args) := optionOf 'e' c.args
  let (flags, names) := flagsOf args
  let (pattern, names) :=
    match pattern? with
    | some p => (p, names)
    | none => (names.headD [], names.drop 1)
  let ignoreCase := flags.contains 'i'
  let holds (l : Octets) : Bool :=
    if flags.contains 'F' then occursIn pattern l
    else
      match Regex.find? ignoreCase (Regex.ofText (flags.contains 'E') pattern) l with
      | some (before, n) => !flags.contains 'x' || (before.isEmpty && n = l.length)
      | none => false
  let (found, err) := readAll c "grep" names
  let many := 1 < names.length && !flags.contains 'h'
  let results := found.map fun (name, t) =>
    (name, (linesOf t).zipIdx.filter fun (e : Octets × Nat) => holds e.1 != flags.contains 'v')
  let any := results.any fun (_, ls) => !ls.isEmpty
  let mark (name : Octets) : Octets := if many then name ++ [':'] else []
  let out :=
    if flags.contains 'q' then []
    else if flags.contains 'c' then
      results.flatMap fun (name, ls) => mark name ++ numeral ls.length ++ ['\n']
    else if flags.contains 'l' then
      results.flatMap fun (name, ls) => if ls.isEmpty then [] else name ++ ['\n']
    else
      results.flatMap fun (name, ls) => ls.flatMap fun (l, i) =>
        mark name ++ (if flags.contains 'n' then numeral (i + 1) ++ [':'] else []) ++ l ++ ['\n']
  ⟨out, err, if !err.isEmpty then 2 else if any then 0 else 1, c.tree, 0⟩

end Utility

end Literate.Shell

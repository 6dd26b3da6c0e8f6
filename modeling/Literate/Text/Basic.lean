/-!
# Texts

Documents, lines and names are sequences of characters.  This module holds the
operations every other module shares: trimming at either end, cutting at a
separator, words, and leftmost search.

* `trim`, `trimStart`, `trimEnd` remove blanks.
* `pieces` cuts at a separator and always yields at least one piece.
* `words` are the maximal blank-free runs.
* `search` finds the leftmost position at which a matcher succeeds.
-/

namespace Literate

/-- A document, a line or a name: a sequence of characters. -/
abbrev Text := List Char

/-- A line without its terminator. -/
abbrev Line := List Char

namespace Text

/-- White space: the separators and controls that end a word. -/
def isBlank (c : Char) : Bool :=
  let n := c.toNat
  (9 ≤ n && n ≤ 13) || (28 ≤ n && n ≤ 32) || n == 0x85 || n == 0xa0 || n == 0x1680
    || (0x2000 ≤ n && n ≤ 0x200a) || n == 0x2028 || n == 0x2029 || n == 0x202f
    || n == 0x205f || n == 0x3000

/-- A space or a tab. -/
def isGap (c : Char) : Bool := c = ' ' || c = '\t'

/-- Every character is blank. -/
def allBlank (t : Text) : Bool := t.all isBlank

/-- Drops the longest run at the end whose members satisfy `p`. -/
def dropEndWhile {α : Type} (p : α → Bool) : List α → List α
  | [] => []
  | c :: r =>
    match dropEndWhile p r with
    | [] => if p c then [] else [c]
    | d :: s => c :: d :: s

/-- Drops the blanks at the front. -/
def trimStart (t : Text) : Text := t.dropWhile isBlank

theorem length_trimStart_le (t : Text) : (trimStart t).length ≤ t.length :=
  (List.dropWhile_suffix isBlank).length_le

/-- Drops the blanks at the end. -/
def trimEnd (t : Text) : Text := dropEndWhile isBlank t

/-- Drops the blanks at both ends. -/
def trim (t : Text) : Text := trimStart (trimEnd t)

/-- The text cut at every `sep`; there is one piece more than there are separators. -/
def pieces (sep : Char) : Text → List Text
  | [] => [[]]
  | c :: r =>
    if c = sep then [] :: pieces sep r
    else
      match pieces sep r with
      | [] => [[c]]
      | p :: ps => (c :: p) :: ps

/-- The pieces put back together. -/
def join (sep : Text) (ts : List Text) : Text := List.intercalate sep ts

/-- The maximal runs without a blank. -/
def words : Text → List Text
  | [] => []
  | c :: r =>
    if isBlank c then words r
    else
      match r with
      | [] => [[c]]
      | d :: _ =>
        if isBlank d then [c] :: words r
        else
          match words r with
          | [] => [[c]]
          | w :: ws => (c :: w) :: ws

/-- What follows `start`, when the text begins with it. -/
def afterPrefix? : Text → Text → Option Text
  | [], t => some t
  | _ :: _, [] => none
  | s :: start, c :: t => if s = c then afterPrefix? start t else none

/-- The leftmost position at which `m` succeeds: what stands before it, what was found, what
follows. -/
def search {α : Type} (m : Text → Option (α × Text)) : Text → Option (Text × α × Text)
  | [] =>
    match m [] with
    | some (a, after) => some ([], a, after)
    | none => none
  | c :: r =>
    match m (c :: r) with
    | some (a, after) => some ([], a, after)
    | none =>
      match search m r with
      | some (before, a, after) => some (c :: before, a, after)
      | none => none

/-- The text before the first `sep`, and the text after it when there is one. -/
def cut (sep : Char) : Text → Text × Option Text
  | [] => ([], none)
  | c :: r =>
    if c = sep then ([], some r)
    else
      let (before, after?) := cut sep r
      (c :: before, after?)

/-- Whether `part` occurs in the text. -/
def occursIn (part : Text) (t : Text) : Bool :=
  (search (fun s => (afterPrefix? part s).map fun after => ((), after)) t).isSome

/-- Whether a text does not come after another one in the order of code points. -/
def precedes : Text → Text → Bool
  | [], _ => true
  | _ :: _, [] => false
  | a :: r, b :: s => if a = b then precedes r s else a.toNat < b.toNat

/-- Whether the text ends with `tail`. -/
def endsWith (tail t : Text) : Bool := (afterPrefix? tail.reverse t.reverse).isSome

/-- Every occurrence of `part`, from the left and without overlap, replaced by `new`; `fuel` is a
bound on the number of steps. -/
def replaceFrom (part new : Text) : Nat → Text → Text
  | 0, t => t
  | fuel + 1, t =>
    match search (fun s => (afterPrefix? part s).map fun after => ((), after)) t with
    | some (before, _, after) => before ++ new ++ replaceFrom part new fuel after
    | none => t

/-- Every occurrence of the non-empty `part`, from the left and without overlap, replaced. -/
def replace (part new t : Text) : Text :=
  if part.isEmpty then t else replaceFrom part new t.length t

end Text

/-- The text as a string, for messages. -/
def Text.toStr (t : Text) : String := String.ofList t

end Literate

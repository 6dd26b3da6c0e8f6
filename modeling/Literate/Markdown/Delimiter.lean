import Literate.Markdown.Inline
import Literate.Text.Punctuation

/-!
# Delimiters

Runs of asterisks, underscores and tildes open and close emphasis.  A run can open when it stands at
the left of a word and close when it stands at the right; each closer takes the nearest opener of its
kind, and whatever stands between the two is settled by then.

* `Delimiter.flanks` says which runs can open and close.
* `Delimiter.pairs` matches openers and closers.
* `Atom.resolve` turns matched delimiters into tags and the others into text.
-/

namespace Literate.Markdown

open Text

/-- One delimiter: an asterisk, an underscore or a pair of tildes. -/
structure Delimiter where
  mark : Char
  /-- The length of its run; zero for tildes, whose runs may have any length. -/
  run : Nat
  opens : Bool
  closes : Bool
  deriving DecidableEq, Repr

/-- Inline content in which delimiters are still to be matched. -/
inductive Atom
  | done (i : Inline)
  | delimiter (d : Delimiter)

namespace Delimiter

/-- Whether a character counts as white space beside a run. -/
def isSpace (c : Char) : Bool :=
  let n := c.toNat
  (9 ≤ n && n ≤ 13) || n == 32 || n == 0xa0 || n == 0x1680 || (0x2000 ≤ n && n ≤ 0x200a)
    || n == 0x202f || n == 0x205f || n == 0x3000

/-- Whether a run between two characters can open and whether it can close; `inWord` says whether it
may do so inside a word. -/
def flanks (inWord : Bool) (before after : Char) : Bool × Bool :=
  let left := !(isSpace after || (isPunctuation after && !(isSpace before || isPunctuation before)))
  let right := !(isSpace before || (isPunctuation before && !(isSpace after || isPunctuation after)))
  if inWord then (left, right)
  else (left && (!right || isPunctuation before), right && (!left || isPunctuation after))

/-- A delimiter that may still be matched: its place among the delimiters, and its place in the
content. -/
structure Entry where
  index : Nat
  place : Nat
  delimiter : Delimiter

/-- Whether the lengths of two runs keep them apart: one of them could open and close, and the sum
is a multiple of three though the lengths are not. -/
def isOdd (opener closer : Delimiter) : Bool :=
  (opener.closes || closer.opens) && (opener.run + closer.run) % 3 == 0
    && (opener.run % 3 != 0 || closer.run % 3 != 0)

/-- Whether a closer takes an opener. -/
def takes (opener closer : Delimiter) : Bool :=
  opener.mark == closer.mark && opener.opens && !isOdd opener closer

/-- The state of matching: entries that may still be matched, the last one first, the pairs of
places found, and the run that the last delimiter belongs to. -/
structure Matching where
  waiting : List Entry
  found : List (Nat × Nat)
  /-- The index at which the run starts, and the place of the last delimiter when it was not matched. -/
  runStart : Nat
  last : Option Nat
  lastMark : Char

/-- The entries from the one that a closer takes on. -/
def taken (runStart : Nat) (closer : Delimiter) (waiting : List Entry) : List Entry :=
  waiting.dropWhile fun e => !(e.index < runStart && takes e.delimiter closer)

/-- Takes one delimiter. -/
def matchStep (m : Matching) (e : Entry) : Matching :=
  let goesOn := m.lastMark == e.delimiter.mark && (m.last.map (· + 1)) == some e.place
  let runStart := if goesOn then m.runStart else e.index
  match (if e.delimiter.closes then taken runStart e.delimiter m.waiting else []) with
  | opener :: below =>
    { waiting := below, found := (opener.place, e.place) :: m.found, runStart, last := none
      lastMark := e.delimiter.mark }
  | [] =>
    { m with waiting := e :: m.waiting, runStart, last := some e.place, lastMark := e.delimiter.mark }

/-- The places of openers and their closers. -/
def pairs (entries : List Entry) : List (Nat × Nat) :=
  (entries.foldl matchStep ⟨[], [], 0, none, ' '⟩).found

end Delimiter

namespace Atom

/-- The delimiters of a content with their places. -/
def entriesFrom (index place : Nat) : List Atom → List Delimiter.Entry
  | [] => []
  | .done _ :: rest => entriesFrom index (place + 1) rest
  | .delimiter d :: rest => ⟨index, place, d⟩ :: entriesFrom (index + 1) (place + 1) rest

/-- What becomes of the delimiter at a place. -/
inductive Role
  | opening (s : Surround)
  | closing (s : Surround)
  | dropped
  | plain
  deriving DecidableEq

/-- The mark of the delimiter at a place, a space where there is none. -/
def markAt (atoms : List Atom) (place : Nat) : Char :=
  match atoms[place]? with
  | some (.delimiter d) => d.mark
  | _ => ' '

/-- Roles of the pairs of asterisks and underscores, whose openers come last first: two pairs of one
mark, one right inside the other, make strong emphasis. -/
def emphasisRoles (atoms : List Atom) : Nat → List (Nat × Nat) → List (Nat × Role)
  | 0, _ => []
  | _, [] => []
  | fuel + 1, (a, b) :: rest =>
    let outer := (a - 1, b + 1)
    if 0 < a && rest.contains outer && markAt atoms (a - 1) == markAt atoms a then
      [(a, .opening .strong), (b, .closing .strong), (a - 1, .dropped), (b + 1, .dropped)] ++
        emphasisRoles atoms fuel (rest.erase outer)
    else
      [(a, .opening .emphasis), (b, .closing .emphasis)] ++ emphasisRoles atoms fuel rest

/-- The roles of matched delimiters. -/
def roles (atoms : List Atom) : List (Nat × Role) :=
  let found := Delimiter.pairs (entriesFrom 0 0 atoms)
  let (struck, rest) := found.partition fun p => markAt atoms p.1 == '~'
  let ordered := rest.mergeSort fun p q => q.1 ≤ p.1
  (struck.flatMap fun (a, b) => [(a, Role.opening .struck), (b, Role.closing .struck)]) ++
    emphasisRoles atoms ordered.length ordered

/-- The text of a delimiter. -/
def delimiterText (d : Delimiter) : Text := if d.mark = '~' then ['~', '~'] else [d.mark]

/-- A piece of content with the role of its delimiter, if it is one. -/
def settled (roles : List (Nat × Role)) : Nat → List Atom → List Inline
  | _, [] => []
  | place, .done i :: rest => i :: settled roles (place + 1) rest
  | place, .delimiter d :: rest =>
    let tail := settled roles (place + 1) rest
    match (roles.lookup place).getD .plain with
    | .opening s => .opening s :: tail
    | .closing s => .closing s :: tail
    | .dropped => .text [] :: tail
    | .plain => .text (delimiterText d) :: tail

/-- Whether a piece of content ends struck text. -/
def endsStruck : Inline → Bool
  | .closing .struck => true
  | _ => false

/-- Whether a piece of content is a tilde alone. -/
def isTilde : Inline → Bool
  | .text ['~'] => true
  | _ => false

/-- Moves a tilde that stands right before the ends of struck text behind them. -/
def moveTildes : List Inline → List Inline
  | [] => []
  | i :: rest =>
    let tail := moveTildes rest
    if isTilde i then
      match tail.span endsStruck with
      | ([], _) => i :: tail
      | (ends, after) => ends ++ i :: after
    else i :: tail

/-- Puts adjacent texts together. -/
def joinTexts : List Inline → List Inline
  | [] => []
  | .text t :: rest =>
    match joinTexts rest with
    | .text s :: more => .text (t ++ s) :: more
    | more => .text t :: more
  | i :: rest => i :: joinTexts rest

/-- Turns matched delimiters into tags and the others into text. -/
def resolve (atoms : List Atom) : List Inline :=
  joinTexts (moveTildes (settled (roles atoms) 0 atoms))

end Atom

end Literate.Markdown

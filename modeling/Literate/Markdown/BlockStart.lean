import Literate.Markdown.Block
import Literate.Markdown.RawHtml
import Literate.Markdown.SourceLine

/-!
# Where blocks start

What a line has to look like to start each kind of block, and which kinds may break into a paragraph
or a container that could go on.

* `fenceRun?`, `heading?`, `listMarker?` and their like read the start of a block.
* `interrupts` says whether a line ends what stands before it.
-/

namespace Literate.Markdown

open Text

/-- Where a block is looked for. -/
structure Place where
  /-- The column from which content of the innermost list item or note counts. -/
  indent : Nat
  /-- The column of the list around the innermost item. -/
  listIndent : Option Nat
  /-- The number of containers around. -/
  depth : Nat

namespace SourceLine

/-- Whether a line is indented so far that it is code. -/
def isCode (l : SourceLine) (p : Place) : Bool := p.indent + 4 ≤ l.indent

/-- Whether a line lies to the left of the content. -/
def isOutside (l : SourceLine) (p : Place) : Bool := l.indent < p.indent

end SourceLine

/-- A fence: its character, its length and the rest of its line. -/
def fenceRun? (t : Text) : Option (Char × Nat × Text) :=
  match t with
  | [] => none
  | c :: _ =>
    if c = '\x60' || c = '~' then
      let n := (t.takeWhile (· == c)).length
      let rest := t.drop n
      if n < 3 || (c = '\x60' && rest.contains '\x60') then none else some (c, n, rest)
    else none

/-- Whether a line is a thematic break. -/
def isBreak (t : Text) : Bool :=
  match t with
  | [] => false
  | c :: r =>
    (c = '*' || c = '-' || c = '_') && r.all (fun d => d = c || isGap d) && 3 ≤ t.count c

/-- The level and the content of a heading. -/
def heading? (t : Text) : Option (Nat × Text) :=
  let level := (t.takeWhile (· == '#')).length
  let rest := t.drop level
  if level = 0 || 6 < level then none
  else if !(rest.isEmpty || (rest.head?.map isGap).getD false) then none
  else
    let core := dropEndWhile isGap rest
    let bare := dropEndWhile (· == '#') core
    let content := if (bare.getLast?.map isGap).getD false then bare else core
    some (level, trim content)

/-- The marker of a list item: its last character, its number if it has one, and its length. -/
structure ListMarker where
  mark : Char
  number : Option Nat
  width : Nat

/-- Whether a text ends or goes on with a gap. -/
def endsMarker : Text → Bool
  | [] => true
  | c :: _ => isGap c

/-- The longest number of a list item, in digits. -/
def numberLimit : Nat := 9

/-- The value of decimal digits. -/
def numberValue (digits : Text) : Nat := digits.foldl (fun n c => n * 10 + (c.toNat - 48)) 0

/-- The marker of a list item at the front of a text. -/
def listMarker? (t : Text) : Option ListMarker :=
  match t with
  | [] => none
  | c :: r =>
    if c = '*' || c = '-' || c = '+' then
      if endsMarker r then some ⟨c, none, 1⟩ else none
    else
      let digits := t.takeWhile Char.isDigit
      match t.drop digits.length with
      | d :: rest =>
        if (d = '.' || d = ')') && !digits.isEmpty && digits.length ≤ numberLimit && endsMarker rest then
          some ⟨d, some (numberValue digits), digits.length + 1⟩
        else none
      | [] => none

/-- The label of a note, and what follows its colon. -/
def noteStart? (t : Text) : Option (Text × Text) :=
  match t with
  | '[' :: '^' :: r =>
    let label := r.takeWhile fun c => !(c = ' ' || c = ']')
    match r.drop label.length with
    | ']' :: ':' :: rest => if label.isEmpty then none else some (label, rest)
    | _ => none
  | _ => none

/-- The alignment that a cell below the header asks for. -/
def alignment? (cell : Text) : Option Alignment :=
  let core := match cell with
    | ':' :: r => r
    | r => r
  let dashes := dropEndWhile (· == ':') core
  if dashes.isEmpty || !dashes.all (· == '-') || dashes.length + 1 < core.length then none
  else
    let atStart := cell.head? = some ':'
    let atEnd := cell.getLast? = some ':'
    some (if atStart && atEnd then .center else if atEnd then .right else if atStart then .left
      else .unset)

/-- The alignments of cells; the first and the last may be empty. -/
def alignments? (first : Bool) : List Text → Option (List Alignment)
  | [] => some []
  | cell :: rest =>
    let c := trim cell
    if c.isEmpty then
      if first || rest.isEmpty then alignments? false rest else none
    else
      match alignment? c, alignments? false rest with
      | some a, some more => some (a :: more)
      | _, _ => none

/-- Cuts a row at its bars; a bar after a backslash stays, without the backslash. -/
def cells : Text → List Text
  | [] => [[]]
  | '|' :: r => [] :: cells r
  | '\\' :: '|' :: r =>
    match cells r with
    | [] => [['|']]
    | t :: ts => ('|' :: t) :: ts
  | c :: r =>
    match cells r with
    | [] => [[c]]
    | t :: ts => (c :: t) :: ts

/-- The cells of a row without the empty ones at its ends. -/
def rowCells (t : Text) : List Text :=
  let cs := cells (trim t)
  let cs := if cs.head? = some [] then cs.drop 1 else cs
  if cs.getLast? = some [] then cs.dropLast else cs

/-- Whether a line may hold the alignments of a table. -/
def isRuler (t : Text) : Bool :=
  let isMark := fun c => c = '|' || c = '-' || c = ':'
  match t with
  | a :: b :: r =>
    isMark a && (isMark b || isGap b) && !(a = '-' && isGap b) && r.all fun c => isMark c || isGap c
  | _ => false

/-- The alignments and the header of a table whose first two lines are given. -/
def tableHead? (p : Place) (header ruler : SourceLine) : Option (List Alignment × List Text) :=
  if ruler.isOutside p || ruler.isCode p || !isRuler ruler.body then none
  else
    match alignments? true (pieces '|' (trim ruler.body)) with
    | none => none
    | some columns =>
      let row := rowCells header.body
      if !header.body.contains '|' || header.isCode p || row.isEmpty || row.length ≠ columns.length then
        none
      else some (columns, row.map trim)

/-- What a line may interrupt. -/
inductive Interrupted
  | paragraph
  | definition
  /-- A quotation or a table. -/
  | container
  | list
  deriving DecidableEq, Repr

/-- Whether a line starts a list item where `what` could go on.  An item that breaks into a paragraph
has content, and the number one if it has a number. -/
def startsItem (p : Place) (what : Interrupted) (l : SourceLine) : Bool :=
  let isFar := match p.listIndent with
    | some k => k + 4 ≤ l.indent && l.isOutside p
    | none => false
  if isFar then false
  else
    match listMarker? l.body with
    | none => false
    | some m =>
      let breaksIn := what = .paragraph && !l.isOutside p
      !(breaksIn && ((m.number.isSome && m.number ≠ some 1) || (l.body.drop m.width).all isGap))

/-- Whether the first of the lines ends what could go on with it. -/
def interrupts (p : Place) (what : Interrupted) (lines : List SourceLine) : Bool :=
  match lines with
  | [] => false
  | l :: rest =>
    let body := l.body
    let startsText := what ≠ .list
    let startsParagraph := what = .paragraph || what = .definition
    let table := match rest with
      | ruler :: _ => startsParagraph && (tableHead? p l ruler).isSome
      | [] => false
    !l.isCode p &&
      (table || (fenceRun? body).isSome || body.head? = some '>' || isBreak body
        || (startsText && startsItem p what l)
        || (startsParagraph && (noteStart? body).isSome)
        || (startsText && (match RawHtml.blockKind? body with
            | some .lone => false
            | some _ => true
            | none => false))
        || (startsText && (heading? body).isSome))

end Literate.Markdown

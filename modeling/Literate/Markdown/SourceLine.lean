import Literate.Text.Basic

/-!
# Source lines

A line as a container sees it: what stands from the container's left edge on, how many characters
and columns come before its first visible one, and at which column the edge lies, for tab stops.

* `SourceLine.ofText` cuts a text into lines.
* `SourceLine.cut` is the line without a number of columns at the front.
-/

namespace Literate.Markdown

open Text

/-- A line as a container sees it. -/
structure SourceLine where
  /-- The characters from the left edge on. -/
  text : Text
  /-- The number of characters before the body. -/
  shift : Nat
  /-- The number of columns before the body; negative for a line that only continues a paragraph. -/
  indent : Int
  /-- The column of the left edge. -/
  column : Nat
  /-- Whether a newline ends the line. -/
  ended : Bool
  /-- Whether this is the first line of a text that begins with a hyphen. -/
  isFront : Bool

namespace SourceLine

/-- The number of characters and the column after the gap at the front of a text whose first
character stands at `column`, with tab stops counted from `offset` columns before. -/
def gap (offset : Nat) : Nat → Text → Nat × Nat
  | column, c :: r =>
    if c = ' ' then
      let (n, k) := gap offset (column + 1) r
      (n + 1, k)
    else if c = '\t' then
      let (n, k) := gap offset (column + (4 - (column + offset) % 4)) r
      (n + 1, k)
    else (0, column)
  | column, [] => (0, column)

/-- The body: everything from the first visible character on. -/
def body (l : SourceLine) : Text := l.text.drop l.shift

/-- Whether nothing is visible. -/
def isEmpty (l : SourceLine) : Bool := l.text.length ≤ l.shift

/-- A line that starts at the first column. -/
def plain (t : Text) (ended : Bool) : SourceLine :=
  let (shift, indent) := gap 0 0 t
  { text := t, shift, indent, column := 0, ended, isFront := false }

/-- The lines of a text and whether a newline ends each. -/
def rawLines : Text → List (Text × Bool)
  | [] => []
  | c :: r =>
    if c = '\n' then ([], true) :: rawLines r
    else
      match rawLines r with
      | [] => [([c], false)]
      | (l, ended) :: ls => (c :: l, ended) :: ls

/-- Cuts a text into lines; a last line of blanks without a newline is none. -/
def ofText (t : Text) : List SourceLine :=
  let visible := (rawLines t).filter fun (l, ended) => ended || !l.all isGap
  match visible.map fun (l, ended) => plain l ended with
  | [] => []
  | first :: rest => { first with isFront := first.text.head? = some '-' } :: rest

/-- Drops columns at the front of a text: `index` characters and `column` columns were dropped, and
the first `shift` characters count as blanks.  A tab that reaches too far leaves spaces. -/
def cutFrom (width offset shift : Nat) : Nat → Nat → Text → Text
  | index, column, c :: r =>
    if width ≤ column then List.replicate (column - width) ' ' ++ c :: r
    else if c = ' ' then cutFrom width offset shift (index + 1) (column + 1) r
    else if c = '\t' then
      cutFrom width offset shift (index + 1) (column + (4 - (column + offset) % 4)) r
    else if index < shift then cutFrom width offset shift (index + 1) (column + 1) r
    else c :: r
  | _, column, [] => List.replicate (column - width) ' '

/-- The line without `width` columns at the front. -/
def cut (width : Nat) (l : SourceLine) : Text := cutFrom width l.column l.shift 0 0 l.text

/-- Lines put together without columns at the front; the last one keeps its newline. -/
def joinWithEnds (width : Nat) (ls : List SourceLine) : Text :=
  ls.flatMap fun l => l.cut width ++ if l.ended then ['\n'] else []

/-- Lines put together without columns at the front and without the last newline. -/
def joined (width : Nat) (ls : List SourceLine) : Text := join ['\n'] (ls.map (cut width))

end SourceLine

end Literate.Markdown

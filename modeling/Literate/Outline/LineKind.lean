import Literate.Text.Digit

/-!
# Kinds of line

Tests on single lines outside fences: headings, underlines, thematic breaks, quotes and list items.
Spaces before a construct are at most three, except before a list item.
-/

namespace Literate.LineKind

open Text

/-- The line after at most three spaces; `none` when it is indented further. -/
def unindented? (l : Line) : Option Line :=
  let indent := (l.takeWhile (· == ' ')).length
  if 3 < indent then none else some (l.dropWhile (· == ' '))

/-- Only spaces and tabs. -/
def isGaps (t : Text) : Bool := t.all isGap

/-- Whether what remains of a line is empty or begins with a gap. -/
def endsOrGap : Text → Bool
  | [] => true
  | c :: _ => isGap c

/-- Drops a closing run of number signs that stands alone or after a gap. -/
def dropClosing (title : Text) : Text :=
  let t := dropEndWhile isGap title
  let body := dropEndWhile (· == '#') t
  if body.length == t.length then title
  else
    match body.getLast? with
    | none => []
    | some c => if isGap c then dropEndWhile isGap body else title

/-- The title of a top-level heading line.  Model of `structure.ATX_H1_RE` with
`structure._heading_title`. -/
def headingTitle? (l : Line) : Option Text :=
  match unindented? l with
  | some ('#' :: r) =>
    if endsOrGap r then some (trim (dropClosing (dropEndWhile isGap (r.dropWhile isGap)))) else none
  | _ => none

/-- A heading line of any level.  Model of `structure.ATX_ANY_RE`. -/
def isHeading (l : Line) : Bool :=
  match unindented? l with
  | none => false
  | some r =>
    let level := (r.takeWhile (· == '#')).length
    let rest := r.dropWhile (· == '#')
    1 ≤ level && level ≤ 6 && endsOrGap rest

/-- A quoted line.  Model of `structure.BLOCKQUOTE_RE`. -/
def isQuote (l : Line) : Bool :=
  match unindented? l with
  | some ('>' :: _) => true
  | _ => false

/-- A line of `c`s, at least one, with gaps after them. -/
def isRunOf (c : Char) (l : Line) : Bool :=
  match unindented? l with
  | none => false
  | some r => r.head? == some c && isGaps (r.dropWhile (· == c))

/-- The underline of a top-level heading.  Model of `structure.SETEXT_H1_RE`. -/
def isUnderline1 (l : Line) : Bool := isRunOf '=' l

/-- The underline of a second-level heading.  Model of `structure.SETEXT_H2_RE`. -/
def isUnderline2 (l : Line) : Bool := isRunOf '-' l

/-- At least three `c`s and otherwise only gaps, the first character being a `c`. -/
def isBreakOf (c : Char) (r : Text) : Bool :=
  r.head? == some c && r.all (fun d => d == c || isGap d) && 3 ≤ r.count c

/-- A thematic break.  Model of `structure.THEMATIC_BREAK_RE`. -/
def isBreak (l : Line) : Bool :=
  match unindented? l with
  | none => false
  | some r => isBreakOf '-' r || isBreakOf '*' r || isBreakOf '_' r

/-- The first line of a list item: a bullet or a number of at most nine digits with its dot or
bracket.  Model of `structure.LIST_ITEM_RE`. -/
def isItem (l : Line) : Bool :=
  match trimStart l with
  | [] => false
  | c :: r =>
    if c == '-' || c == '*' || c == '+' then endsOrGap r
    else
      let digits := (c :: r).takeWhile isDigit
      match (c :: r).dropWhile isDigit with
      | [] => false
      | d :: s =>
        1 ≤ digits.length && digits.length ≤ 9 && (d == '.' || d == ')') && endsOrGap s

/-- Number of blanks at the front of a line.  Model of `exclusion._indent`. -/
def indentation (l : Line) : Nat := (l.takeWhile isBlank).length

end Literate.LineKind

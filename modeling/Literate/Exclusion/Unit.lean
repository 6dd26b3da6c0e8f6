import Literate.Outline.Scan

/-!
# Prose units

Outside fences, the lines that are neither blank nor headings nor breaks are prose.  Prose falls into
units: a paragraph is a run of prose lines up to the next list item, a list starts with an item and
goes on over lines of any kind of prose, and over blank lines when an item or an indented line
follows them.

* `Prose.step` reads one line and finishes at most one unit.
* `Prose.units` are the units of a document in source order.
-/

namespace Literate

open Text

/-- A line with its number in the document. -/
structure Entry where
  number : Nat
  text : Line
  deriving DecidableEq, Repr

/-- The lines numbered from `n` on. -/
def Entry.numbered (n : Nat) : List Line → List Entry
  | [] => []
  | l :: ls => ⟨n, l⟩ :: numbered (n + 1) ls

/-- The two kinds of prose unit. -/
inductive UnitKind
  | paragraph
  | list
  deriving DecidableEq, Repr

/-- A paragraph or a list with its lines in order. -/
structure ProseUnit where
  kind : UnitKind
  entries : List Entry
  deriving DecidableEq, Repr

/-- The unit being gathered; the blank lines after a list are held back until it goes on. -/
inductive Gathering
  | idle
  | paragraph (entries : List Entry)
  | list (entries blanks : List Entry)
  deriving DecidableEq, Repr

namespace Gathering

/-- The unit gathered so far. -/
def close : Gathering → List ProseUnit
  | idle => []
  | paragraph entries => [⟨.paragraph, entries⟩]
  | list entries _ => [⟨.list, entries⟩]

/-- Starts a unit with a prose line. -/
def start (e : Entry) : Gathering :=
  if LineKind.isItem e.text then list [e] [] else paragraph [e]

/-- Reads a prose line. -/
def stepProse (g : Gathering) (e : Entry) : Gathering × List ProseUnit :=
  match g with
  | idle => (start e, [])
  | paragraph entries =>
    if LineKind.isItem e.text then (start e, g.close) else (paragraph (entries ++ [e]), [])
  | list entries [] => (list (entries ++ [e]) [], [])
  | list entries (b :: blanks) =>
    if LineKind.isItem e.text || 0 < LineKind.indentation e.text then
      (list (entries ++ b :: blanks ++ [e]) [], [])
    else (start e, g.close)

/-- Reads a line that is no prose. -/
def stepOther (g : Gathering) (isFenced : Bool) (e : Entry) : Gathering × List ProseUnit :=
  match g with
  | list entries blanks =>
    if !isFenced && allBlank e.text then (list entries (blanks ++ [e]), []) else (idle, g.close)
  | _ => (idle, g.close)

end Gathering

namespace Prose

/-- Headings and breaks, which no marker touches.  Model of
`exclusion.ExclusionFilter._is_structural`. -/
def isStructural (l : Line) : Bool :=
  LineKind.isHeading l || LineKind.isBreak l || LineKind.isUnderline1 l

/-- Whether a line is prose.  Model of `exclusion.ExclusionFilter._is_prose`. -/
def isProse (o : Outline) (e : Entry) : Bool :=
  !(o.isFenced e.number || allBlank e.text || isStructural e.text)

/-- Reads one line.  Model of the loop body of `exclusion.ExclusionFilter._prose_units`. -/
def step (o : Outline) (g : Gathering) (e : Entry) : Gathering × List ProseUnit :=
  if isProse o e then g.stepProse e else g.stepOther (o.isFenced e.number) e

/-- The units finished from `g` on. -/
def unitsFrom (o : Outline) (g : Gathering) : List Entry → List ProseUnit
  | [] => g.close
  | e :: rest =>
    let (g', finished) := step o g e
    finished ++ unitsFrom o g' rest

/-- The prose units of a document in source order.  Model of
`exclusion.ExclusionFilter._prose_units`. -/
def units (o : Outline) (entries : List Entry) : List ProseUnit := unitsFrom o .idle entries

end Prose

end Literate

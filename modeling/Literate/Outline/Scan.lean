import Literate.Outline.Basic
import Literate.Outline.LineKind

/-!
# Reading the outline of a document

The scanner reads a document line by line.  Outside fences it follows paragraphs, because only an
underline tells a heading from text; inside a fence it waits for the closing fence.  Each line
finishes at most one item, a record or a slide.

* `Scan.step` reads one line.
* `Scan.run` reads all of them and reports a fence that is left open.
* `Outline.parse` adds the implicit first slide.

A fence line inside a block is an error when it could close the block but opens another one.
-/

namespace Literate

open Text

/-- Why a document has no outline.  Model of `errors.ParseError`. -/
inductive ParseError
  /-- A fence at `line` opens a block while the one opened at `opener` is still open. -/
  | nested (line opener : Nat)
  /-- The block opened at `line` is never closed. -/
  | unclosed (line : Nat)
  deriving DecidableEq, Repr

namespace ParseError

/-- The line reported. -/
def line : ParseError → Nat
  | nested line _ => line
  | unclosed line => line

/-- What went wrong. -/
def reason : ParseError → String
  | nested _ opener => s!"block opened before the block starting at line {opener} was closed"
  | unclosed _ => "block is never closed"

/-- The error as shown. -/
def message (e : ParseError) : String := s!"line {e.line}: " ++ e.reason

/-- The error `n` lines further down. -/
def shift (n : Nat) : ParseError → ParseError
  | nested line opener => nested (line + n) (opener + n)
  | unclosed line => unclosed (line + n)

end ParseError

/-- What a line can finish. -/
inductive Item
  | record (r : Record)
  | slide (s : Slide)
  deriving DecidableEq, Repr

namespace Item

/-- The record, if the item is one. -/
def record? : Item → Option Record
  | record r => some r
  | slide _ => none

/-- The slide, if the item is one. -/
def slide? : Item → Option Slide
  | record _ => none
  | slide s => some s

end Item

/-- A paragraph being read; in a list no underline makes it a heading. -/
structure Paragraph where
  startLine : Nat
  lines : List Line
  inList : Bool
  deriving DecidableEq, Repr

/-- The paragraph's lines as a title. -/
def Paragraph.title (p : Paragraph) : Text := join [' '] (p.lines.map trim)

/-- Where the scanner is. -/
inductive Mode
  /-- Outside fences, with the paragraph that is being read. -/
  | prose (open? : Option Paragraph)
  /-- Inside a fence opened at `startLine`, with the lines read since. -/
  | fenced (startLine : Nat) (opener : Fence) (body : List Line)
  deriving DecidableEq, Repr

/-- The state of the scanner: the number of lines read, where it is, the title of the last slide. -/
structure Scan where
  count : Nat
  mode : Mode
  title : Option Text
  deriving DecidableEq, Repr

namespace Scan

/-- The state before the first line. -/
def start : Scan := ⟨0, .prose none, none⟩

/-- A line of three hyphens: the slide it starts repeats the title before it.  Model of the test for
`structure.REPEAT_TITLE`. -/
def isRepeat (l : Line) : Bool := trim l == ['-', '-', '-']

/-- Removes at most `n` spaces from the front.  Model of `structure._dedent`. -/
def dedent : Nat → Line → Line
  | 0, l => l
  | _ + 1, [] => []
  | n + 1, c :: l => if c = ' ' then dedent n l else c :: l

/-- The record between a fence at `startLine` and its closing fence at `endLine`.  Model of
`structure.StructureParser._make_block`. -/
def recordOf (startLine endLine : Nat) (opener : Fence) (body : List Line) : Record :=
  if opener.info = outputInfo then .output ⟨startLine, endLine⟩
  else
    .block
      { startLine, endLine
        fence := opener.marker
        info := Info.parse opener.info
        body := body.map (dedent opener.indent) }

/-- The next state, past line `n`, with no item. -/
def skip (s : Scan) (n : Nat) (open? : Option Paragraph) : Scan × Option Item :=
  (⟨n, .prose open?, s.title⟩, none)

/-- The next state, past line `n`, with a slide. -/
def slide (n : Nat) (sl : Slide) : Scan × Option Item :=
  (⟨n, .prose none, some sl.title⟩, some (.slide sl))

/-- Reads line `n` as text, heading, break or blank, outside fences. -/
def stepText (s : Scan) (n : Nat) (open? : Option Paragraph) (l : Line) : Scan × Option Item :=
  if LineKind.isBreak l then
    slide n ⟨n, if isRepeat l then s.title.getD [] else [], .break⟩
  else
    match LineKind.headingTitle? l with
    | some title => slide n ⟨n, title, .heading⟩
    | none =>
      if LineKind.isHeading l || LineKind.isQuote l then s.skip n none
      else
        match open? with
        | none => s.skip n (some ⟨n, [l], LineKind.isItem l⟩)
        | some p => s.skip n (some { p with lines := p.lines ++ [l], inList := p.inList || LineKind.isItem l })

/-- Reads line `n` outside fences.  Model of the loop body of `structure.StructureParser.parse`. -/
def stepProse (s : Scan) (n : Nat) (open? : Option Paragraph) (l : Line) : Scan × Option Item :=
  match Fence.ofLine? l with
  | some f => (⟨n, .fenced n f [], s.title⟩, none)
  | none =>
    if allBlank l then s.skip n none
    else
      match open? with
      | none => s.stepText n open? l
      | some p =>
        if p.inList then s.stepText n open? l
        else if LineKind.isUnderline1 l then slide n ⟨p.startLine, p.title, .heading⟩
        else if LineKind.isUnderline2 l then s.skip n none
        else s.stepText n open? l

/-- Reads line `n` inside a fence.  Model of the loop body of
`structure.StructureParser._find_closing_fence`. -/
def stepFenced (s : Scan) (n startLine : Nat) (opener : Fence) (body : List Line) (l : Line) :
    Except ParseError (Scan × Option Item) :=
  let inside := ⟨n, .fenced startLine opener (body ++ [l]), s.title⟩
  match Fence.ofLine? l with
  | none => .ok (inside, none)
  | some f =>
    if opener.closes f then
      if f.info.isEmpty then
        .ok (⟨n, .prose none, s.title⟩, some (.record (recordOf startLine n opener body)))
      else .error (.nested n startLine)
    else .ok (inside, none)

/-- Reads one line. -/
def step (s : Scan) (l : Line) : Except ParseError (Scan × Option Item) :=
  match s.mode with
  | .prose open? => .ok (s.stepProse (s.count + 1) open? l)
  | .fenced startLine opener body => s.stepFenced (s.count + 1) startLine opener body l

/-- Reads the lines and collects the items they finish. -/
def run (s : Scan) : List Line → Except ParseError (Scan × List Item)
  | [] => .ok (s, [])
  | l :: ls =>
    match s.step l with
    | .error e => .error e
    | .ok (s', item?) =>
      match run s' ls with
      | .error e => .error e
      | .ok (last, items) => .ok (last, item?.toList ++ items)

/-- Reads the lines to the end of the document, where no fence may be open. -/
def finish (s : Scan) (ls : List Line) : Except ParseError (List Item) :=
  match s.run ls with
  | .error e => .error e
  | .ok (last, items) =>
    match last.mode with
    | .prose _ => .ok items
    | .fenced startLine _ _ => .error (.unclosed startLine)

end Scan

namespace Outline

/-- The number of the first line that is not blank. -/
def firstContent? (lines : List Line) : Option Nat :=
  (lines.findIdx? (!allBlank ·)).map (· + 1)

/-- Adds the implicit slide when content comes before the first slide. -/
def withImplicit (lines : List Line) (slides : List Slide) : List Slide :=
  match firstContent? lines with
  | none => slides
  | some first =>
    match slides with
    | [] => [⟨1, [], .implicit⟩]
    | s :: rest => if first < s.startLine then ⟨1, [], .implicit⟩ :: s :: rest else s :: rest

/-- The outline of a list of lines.  Model of `structure.StructureParser.parse`. -/
def ofLines (ls : List Line) : Except ParseError Outline :=
  match Scan.start.finish ls with
  | .error e => .error e
  | .ok items =>
    .ok
      { lineCount := ls.length
        records := items.filterMap Item.record?
        slides := withImplicit ls (items.filterMap Item.slide?) }

/-- The outline of a document.  Model of `structure.parse` without the cache. -/
def parse (text : Text) : Except ParseError Outline := ofLines (lines text)

end Outline

end Literate

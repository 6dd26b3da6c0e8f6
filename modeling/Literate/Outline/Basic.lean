import Literate.Fence
import Literate.Info
import Literate.Log
import Literate.Text.Digit
import Literate.Text.Lines

/-!
# Outlines

The outline of a document is what the engine needs to know of its structure: the fenced records in
source order, each a contiguous range of lines, and the first line of every slide.  Lines are
numbered from one and ranges include both ends.

* `Block` is a fenced range with an info string; `OutputRegion` is one whose info is `output`.
* `Slide` is the first line of a slide with its title.
* `Outline.slideSpans` gives the lines of every slide.
* `Outline.attachedOutput?` is the output region that belongs to a block.
-/

namespace Literate

open Text

/-- A fenced block: its first line is the opening fence, its last the closing one.  Model of
`models.Block`. -/
structure Block where
  startLine : Nat
  endLine : Nat
  /-- The run of characters that opens the block. -/
  fence : Text
  info : Info
  /-- The lines strictly between the fences, less the opener's indentation. -/
  body : List Line
  deriving DecidableEq, Repr

namespace Block

/-- The name of a block: the one its author gave it, else its first line number. -/
def name (b : Block) : Text := b.info.name.getD (numeral b.startLine)

/-- The body as one text. -/
def source (b : Block) : Text := join ['\n'] b.body

/-- Whether the block carries the marker of a target. -/
def isExcludedFrom (b : Block) (target : Target) : Bool := b.info.isExcludedFrom target

/-- The block `n` lines further down. -/
def shift (n : Nat) (b : Block) : Block :=
  { b with startLine := b.startLine + n, endLine := b.endLine + n }

end Block

/-- The info string of recorded output.  Model of `structure.OUTPUT_INFO`. -/
def outputInfo : Text := ['o', 'u', 't', 'p', 'u', 't']

/-- A fenced range that holds recorded output.  Model of `models.OutputRegion`. -/
structure OutputRegion where
  startLine : Nat
  endLine : Nat
  deriving DecidableEq, Repr

/-- The region `n` lines further down. -/
def OutputRegion.shift (n : Nat) (r : OutputRegion) : OutputRegion :=
  ⟨r.startLine + n, r.endLine + n⟩

/-- A fenced range of either kind. -/
inductive Record
  | block (b : Block)
  | output (r : OutputRegion)
  deriving DecidableEq, Repr

namespace Record

/-- The opening fence. -/
def startLine : Record → Nat
  | block b => b.startLine
  | output r => r.startLine

/-- The closing fence. -/
def endLine : Record → Nat
  | block b => b.endLine
  | output r => r.endLine

/-- The block, if the record is one. -/
def block? : Record → Option Block
  | block b => some b
  | output _ => none

/-- The output region, if the record is one. -/
def output? : Record → Option OutputRegion
  | block _ => none
  | output r => some r

/-- Whether the record holds a line. -/
def holds (r : Record) (line : Nat) : Bool := r.startLine ≤ line && line ≤ r.endLine

/-- The record `n` lines further down. -/
def shift (n : Nat) : Record → Record
  | block b => block (b.shift n)
  | output r => output (r.shift n)

end Record

/-- What starts a slide: a top-level heading, a thematic break, or content before either. -/
inductive SlideKind
  | heading
  | break
  | implicit
  deriving DecidableEq, Repr

/-- The kind as it is written in answers. -/
def SlideKind.label : SlideKind → String
  | heading => "heading"
  | .break => "break"
  | implicit => "implicit"

/-- The first line of a slide, with its title; an untitled slide has the empty title.  Model of
`models.Slide`. -/
structure Slide where
  startLine : Nat
  title : Text
  kind : SlideKind
  deriving DecidableEq, Repr

/-- The slide `n` lines further down. -/
def Slide.shift (n : Nat) (s : Slide) : Slide := { s with startLine := s.startLine + n }

/-- An inclusive range of lines. -/
structure Span where
  first : Nat
  last : Nat
  deriving DecidableEq, Repr

/-- The structure of one document.  Model of `models.StructuralModel`. -/
structure Outline where
  lineCount : Nat
  records : List Record
  slides : List Slide
  deriving DecidableEq, Repr

namespace Outline

/-- The blocks in source order. -/
def blocks (o : Outline) : List Block := o.records.filterMap Record.block?

/-- The output regions in source order. -/
def outputs (o : Outline) : List OutputRegion := o.records.filterMap Record.output?

/-- The first block of a name.  Model of `models.StructuralModel.find_block`. -/
def findBlock? (o : Outline) (name : Text) : Option Block := o.blocks.find? (·.name == name)

theorem mem_of_findBlock? {o : Outline} {n : Text} {b : Block} (h : o.findBlock? n = some b) :
    b ∈ o.blocks := List.mem_of_find?_eq_some h

theorem name_of_findBlock? {o : Outline} {n : Text} {b : Block} (h : o.findBlock? n = some b) :
    b.name = n := by simpa using List.find?_some h

theorem exists_findBlock? {o : Outline} {n : Text} (h : n ∈ o.blocks.map Block.name) :
    ∃ b, o.findBlock? n = some b := by
  obtain ⟨b, hb, rfl⟩ := List.mem_map.mp h
  exact Option.isSome_iff_exists.mp (List.find?_isSome.mpr ⟨b, hb, beq_self_eq_true _⟩)

/-- All blocks of a name, in source order.  Model of `models.StructuralModel.blocks_named`. -/
def blocksNamed (o : Outline) (name : Text) : List Block := o.blocks.filter (·.name == name)

/-- The names met again in a list, each once, in the order of their second occurrence. -/
def repeated (seen found : List Text) : List Text → List Text
  | [] => found
  | n :: ns =>
    if seen.contains n && !found.contains n then repeated (n :: seen) (found ++ [n]) ns
    else repeated (n :: seen) found ns

/-- The names that more than one block has, in the order of their second block.  Model of
`models.StructuralModel.duplicate_names`. -/
def duplicateNames (o : Outline) : List Text := repeated [] [] (o.blocks.map Block.name)

/-- What to say about a name that several blocks have. -/
def duplicateWarning (o : Outline) (name : Text) : LogRecord :=
  let starts := (o.blocksNamed name).map fun b => numeral b.startLine
  ⟨.warning, "Block name '" ++ name.toStr ++ "' is used " ++ (numeral starts.length).toStr
    ++ " times (lines " ++ (join ", ".toList starts).toStr ++ "); the first one wins"⟩

/-- What reading the document has to say: one warning per name that several blocks have. -/
def warnings (o : Outline) : List LogRecord := o.duplicateNames.map o.duplicateWarning

/-- The output region that starts at a line.  Model of `models.StructuralModel.output_at`. -/
def outputAt? (o : Outline) (line : Nat) : Option OutputRegion :=
  o.outputs.find? (·.startLine == line)

/-- Whether a line belongs to a fenced record. -/
def isFenced (o : Outline) (line : Nat) : Bool := o.records.any (·.holds line)

/-- The spans of slides that begin at `first`, then at the start of each slide of the list, and end
at line `last`. -/
def spansFrom (last first : Nat) : List Slide → List Span
  | [] => [⟨first, last⟩]
  | s :: rest => ⟨first, s.startLine - 1⟩ :: spansFrom last s.startLine rest

/-- The lines of each slide: the first slide starts at line one, each ends before the next.  Model
of `models.StructuralModel.slide_spans`. -/
def slideSpans (o : Outline) : List Span :=
  match o.slides with
  | [] => []
  | _ :: rest => spansFrom o.lineCount 1 rest

/-- Number of the first line at or after `line` that is not blank; `rest` holds the lines from
there on. -/
def skipBlanks (line : Nat) : List Line → Nat
  | [] => line
  | l :: rest => if allBlank l then skipBlanks (line + 1) rest else line

/-- The output region of a block: the one that starts at the first line after the block that is not
blank.  Model of `structure.attached_output`. -/
def attachedOutput? (o : Outline) (lines : List Line) (b : Block) : Option OutputRegion :=
  o.outputAt? (skipBlanks (b.endLine + 1) (lines.drop b.endLine))

end Outline

end Literate

import Literate.Markdown.Link

/-!
# Blocks

The block structure of a markdown text.  Text that is yet to be read as inline markup is kept as its
source.
-/

namespace Literate.Markdown

/-- How the cells of a column are aligned. -/
inductive Alignment
  | unset
  | left
  | center
  | right
  deriving DecidableEq, Repr

/-- A block. -/
inductive Block
  /-- A paragraph; one in a list without blank lines is tight. -/
  | paragraph (tight : Bool) (source : Text)
  | heading (level : Nat) (source : Text)
  | thematicBreak
  | code (content : Text)
  | fence (info content : Text)
  | html (content : Text)
  | quote (content : List Block)
  /-- A list, with its first number if it is ordered. -/
  | list (start : Option Nat) (items : List (List Block))
  | table (columns : List Alignment) (header : List Text) (rows : List (List Text))
  /-- A link definition, which shows nothing. -/
  | definition (key : Text) (target : LinkTarget)
  | note (label : Text) (content : List Block)
  /-- Data at the front of a text, which shows nothing. -/
  | frontMatter
  deriving Inhabited

namespace Block

/-- Makes a paragraph of a tight list tight. -/
def tighten : Block → Block
  | paragraph _ source => paragraph true source
  | b => b

mutual

/-- The link definitions at a block, in document order. -/
def definitions : Block → Definitions
  | definition key target => [(key, target)]
  | quote content => definitionsIn content
  | list _ items => definitionsOf items
  | note _ content => definitionsIn content
  | _ => []

/-- The link definitions in blocks. -/
def definitionsIn : List Block → Definitions
  | [] => []
  | b :: rest => definitions b ++ definitionsIn rest

/-- The link definitions in the items of a list. -/
def definitionsOf : List (List Block) → Definitions
  | [] => []
  | item :: rest => definitionsIn item ++ definitionsOf rest

end

mutual

/-- The labels of the notes at a block. -/
def noteLabels : Block → List Text
  | note label content => label :: noteLabelsIn content
  | quote content => noteLabelsIn content
  | list _ items => noteLabelsOf items
  | _ => []

/-- The labels of the notes in blocks. -/
def noteLabelsIn : List Block → List Text
  | [] => []
  | b :: rest => noteLabels b ++ noteLabelsIn rest

/-- The labels of the notes in the items of a list. -/
def noteLabelsOf : List (List Block) → List Text
  | [] => []
  | item :: rest => noteLabelsIn item ++ noteLabelsOf rest

end

end Block

end Literate.Markdown

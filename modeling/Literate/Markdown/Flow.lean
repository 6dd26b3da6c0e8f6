import Literate.Html.Escape
import Literate.Markdown.Block
import Literate.Markdown.InlineParser

/-!
# The flow of a text

Blocks one after the other as the tags, the inline content and the finished markup that they are
written as.

* `flowOf` lays blocks out and reads their inline markup, which numbers the notes.
* `Flow.withoutNotes` and `Flow.noteContents` part the contents of notes from the rest.
-/

namespace Literate.Markdown

open Text

/-- The place of a tag at its element. -/
inductive Nesting
  | opening
  | closing
  | single
  deriving DecidableEq, Repr

/-- The tag of a block. -/
structure BlockTag where
  name : Text
  nesting : Nesting
  attrs : List (Text × Text)
  deriving DecidableEq, Repr

/-- A part of the flow. -/
inductive Part
  | tag (t : BlockTag)
  /-- A tag that is not written. -/
  | hidden
  | content (i : List Inline)
  /-- Finished markup. -/
  | raw (html : Text)
  | noteStart (label : Text)
  | noteEnd

/-- Parts in document order. -/
abbrev Flow := List Part

/-- How a fenced block with an info string and a content is written. -/
abbrev FenceWriter := Text → Text → Text

namespace Part

/-- An opening tag. -/
def opens (name : String) (attrs : List (String × Text)) : Part :=
  .tag ⟨name.toList, .opening, attrs.map fun (k, v) => (k.toList, v)⟩

/-- A closing tag. -/
def closes (name : String) : Part := .tag ⟨name.toList, .closing, []⟩

end Part

/-- Parts between the tags of an element. -/
def surrounded (name : String) (attrs : List (String × Text)) (inner : Flow) : Flow :=
  Part.opens name attrs :: inner ++ [Part.closes name]

/-! ## Tasks -/

/-- Whether a paragraph begins with a box to tick. -/
def isTask (source : Text) : Bool :=
  match source with
  | '[' :: mark :: ']' :: after :: _ =>
    (mark = ' ' || mark = 'x' || mark = 'X') && (after = ' ' || (9 ≤ after.toNat && after.toNat ≤ 13))
  | _ => false

/-- Whether an item is a task: its first block is a paragraph that begins with a box. -/
def isTaskItem : List Block → Bool
  | .definition _ _ :: rest => isTaskItem rest
  | .paragraph _ source :: _ => isTask source
  | _ => false

/-- The box of a task. -/
def checkbox (source : Text) : Text :=
  let mark := source.getD 1 ' '
  if source.getD 3 ' ' != ' ' then []
  else
    ("<input class=\"task-list-item-checkbox\" ".toList ++
      if mark = ' ' then [] else "checked=\"checked\" ".toList) ++
      "disabled=\"disabled\" type=\"checkbox\">".toList

/-- The content of a task, with its box in place of the brackets. -/
def ticked (source : Text) (content : List Inline) : List Inline :=
  .html (checkbox source) ::
    match content with
    | .text t :: rest => .text (t.drop 3) :: rest
    | content => content

/-! ## Laying out -/

/-- The style of the cells of a column. -/
def Alignment.attrs : Alignment → List (String × Text)
  | unset => []
  | left => [("style", "text-align:left".toList)]
  | center => [("style", "text-align:center".toList)]
  | right => [("style", "text-align:right".toList)]

/-- The cells of a row. -/
def cellFlow (s : Scope) (name : String) :
    NoteList → List Alignment → List Text → Flow × NoteList
  | notes, columns, cell :: cells =>
    let (content, notes) := Inline.ofText s notes cell
    let (rest, notes) := cellFlow s name notes (columns.drop 1) cells
    (surrounded name (columns.headD .unset).attrs [.content content] ++ rest, notes)
  | notes, _, [] => ([], notes)

/-- The rows of a table. -/
def rowFlow (s : Scope) (name : String) (columns : List Alignment) :
    NoteList → List (List Text) → Flow × NoteList
  | notes, row :: rows =>
    let (cells, notes) := cellFlow s name notes columns row
    let (rest, notes) := rowFlow s name columns notes rows
    (surrounded "tr" [] cells ++ rest, notes)
  | notes, [] => ([], notes)

/-- The tags of a paragraph around its content; a tight one has none that are written. -/
def paragraphFlow (tight : Bool) (content : List Inline) : Flow :=
  if tight then [.hidden, .content content, .hidden] else surrounded "p" [] [.content content]

mutual

/-- Lays out a block; `task` says whether it begins a task. -/
def Block.flow (s : Scope) (fence : FenceWriter) (task : Bool) (notes : NoteList) :
    Block → Flow × NoteList
  | .paragraph tight source =>
    let (content, notes) := Inline.ofText s notes source
    (paragraphFlow tight (if task then ticked source content else content), notes)
  | .heading level source =>
    let (content, notes) := Inline.ofText s notes source
    (surrounded s!"h{level}" [] [.content content], notes)
  | .thematicBreak => ([.tag ⟨['h', 'r'], .single, []⟩], notes)
  | .code content =>
    ([.raw ("<pre><code>".toList ++ Html.escape content ++ "</code></pre>\n".toList)], notes)
  | .fence info content => ([.raw (fence info content)], notes)
  | .html content => ([.raw content], notes)
  | .quote content =>
    let (inner, notes) := Block.flowIn s fence false notes content
    (surrounded "blockquote" [] inner, notes)
  | .list start items =>
    let (inner, notes) := Block.itemFlow s fence notes items
    let numbered := match start with
      | some n => if n = 1 then [] else [("start", (toString n).toList)]
      | none => []
    let tasks := if items.any isTaskItem then [("class", "contains-task-list".toList)] else []
    (surrounded (if start.isSome then "ol" else "ul") (numbered ++ tasks) inner, notes)
  | .table columns header rows =>
    let (head, notes) := rowFlow s "th" columns notes [header]
    let (body, notes) := rowFlow s "td" columns notes rows
    let body := if rows.isEmpty then [] else surrounded "tbody" [] body
    (surrounded "table" [] (surrounded "thead" [] head ++ body), notes)
  | .definition _ _ => ([], notes)
  | .note label content =>
    let (inner, notes) := Block.flowIn s fence false notes content
    (.noteStart label :: inner ++ [.noteEnd], notes)
  | .frontMatter => ([.hidden], notes)

/-- Lays out blocks; `task` says whether the first that shows begins a task. -/
def Block.flowIn (s : Scope) (fence : FenceWriter) (task : Bool) (notes : NoteList) :
    List Block → Flow × NoteList
  | [] => ([], notes)
  | b :: rest =>
    let (first, notes) := Block.flow s fence task notes b
    let (more, notes) := Block.flowIn s fence (task && first.isEmpty) notes rest
    (first ++ more, notes)

/-- Lays out the items of a list. -/
def Block.itemFlow (s : Scope) (fence : FenceWriter) (notes : NoteList) :
    List (List Block) → Flow × NoteList
  | [] => ([], notes)
  | item :: rest =>
    let task := isTaskItem item
    let (inner, notes) := Block.flowIn s fence task notes item
    let attrs := if task then [("class", "task-list-item".toList)] else []
    let (more, notes) := Block.itemFlow s fence notes rest
    (surrounded "li" attrs inner ++ more, notes)

end

/-- Lays out a text, and the list of its notes. -/
def flowOf (fence : FenceWriter) (blocks : List Block) : Flow × NoteList :=
  let s : Scope := ⟨Block.definitionsIn blocks, Block.noteLabelsIn blocks⟩
  Block.flowIn s fence false .empty blocks

/-! ## Notes -/

namespace Flow

/-- The parts outside of notes.  The end of a note ends every note around it. -/
def withoutNotes (inside : Bool) : Flow → Flow
  | [] => []
  | .noteStart _ :: rest => withoutNotes true rest
  | .noteEnd :: rest => withoutNotes false rest
  | p :: rest => if inside then withoutNotes inside rest else p :: withoutNotes inside rest

/-- The parts up to the next start or end of a note. -/
def upToNote : Flow → Flow
  | [] => []
  | .noteStart _ :: _ => []
  | .noteEnd :: _ => []
  | p :: rest => p :: upToNote rest

/-- Whether the next start or end of a note is an end. -/
def endsNext : Flow → Bool
  | [] => false
  | .noteStart _ :: _ => false
  | .noteEnd :: _ => true
  | _ :: rest => endsNext rest

/-- The contents of notes by label; a note in which another one starts has none. -/
def noteContents : Flow → List (Text × Flow)
  | [] => []
  | .noteStart label :: rest =>
    if endsNext rest then (label, upToNote rest) :: noteContents rest else noteContents rest
  | _ :: rest => noteContents rest

end Flow

end Literate.Markdown

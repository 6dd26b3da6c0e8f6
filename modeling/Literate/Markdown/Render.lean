import Literate.Markdown.BlockParser
import Literate.Markdown.Flow

/-!
# Markdown as HTML

Writes the flow of a text.  A tag of a block ends its line, unless it opens an element whose content
follows on the same line or that is empty.

* `Inline.htmlOf` writes inline content.
* `Flow.htmlAfter` writes a flow.
* `html` writes a text.
-/

namespace Literate.Markdown

open Text

/-! ## Inline content -/

/-- Attributes, each after a space. -/
def attrsHtml (attrs : List (Text × Text)) : Text :=
  attrs.flatMap fun (k, v) => ' ' :: Html.escape k ++ '=' :: '"' :: Html.escape v ++ ['"']

/-- The name of the element of a surround. -/
def Surround.name : Surround → Text
  | emphasis => ['e', 'm']
  | strong => ['s', 't', 'r', 'o', 'n', 'g']
  | struck => ['s']
  | link _ _ => ['a']

/-- The attributes of the element of a surround. -/
def Surround.attrs : Surround → List (Text × Text)
  | link destination title =>
    ("href".toList, destination) :: if title.isEmpty then [] else [("title".toList, title)]
  | _ => []

/-- The name of the place of a reference to a note, and of the note itself for its first one. -/
def noteAnchor (number earlier : Nat) : Text :=
  (if earlier = 0 then s!"{number + 1}" else s!"{number + 1}:{earlier}").toList

/-- A piece of inline content. -/
def Inline.markup : Inline → Text
  | text t => Html.escape t
  | special t => Html.escape t
  | softBreak => ['\n']
  | hardBreak => "<br />\n".toList
  | code t => "<code>".toList ++ Html.escape t ++ "</code>".toList
  | html t => t
  | opening s => '<' :: s.name ++ attrsHtml s.attrs ++ ['>']
  | closing s => '<' :: '/' :: s.name ++ ['>']
  | image source title content =>
    let attrs := [("src".toList, source), ("alt".toList, Inline.shownIn content)] ++
      if title.isEmpty then [] else [("title".toList, title)]
    "<img".toList ++ attrsHtml attrs ++ " />".toList
  | noteRef number earlier =>
    let place := noteAnchor number earlier
    s!"<sup class=\"footnote-ref\"><a href=\"#fn{number + 1}\" id=\"fnref".toList ++ place ++
      "\">[".toList ++ place ++ "]</a></sup>".toList

/-- Inline content. -/
def Inline.htmlOf (content : List Inline) : Text := content.flatMap Inline.markup

/-! ## The flow -/

/-- Whether a tag ends its line before a part. -/
def endsLine (t : BlockTag) (next : Option Part) : Bool :=
  match t.nesting, next with
  | .opening, some (.content _) => false
  | .opening, some .hidden => false
  | .opening, some (.tag u) => !(u.nesting = .closing && u.name = t.name)
  | _, _ => true

/-- A tag between two parts. -/
def BlockTag.html (t : BlockTag) (afterHidden : Bool) (next : Option Part) : Text :=
  (if afterHidden && t.nesting ≠ .closing then ['\n'] else []) ++
    (match t.nesting with
      | .closing => '<' :: '/' :: t.name ++ ['>']
      | .opening => '<' :: t.name ++ attrsHtml t.attrs ++ ['>']
      | .single => '<' :: t.name ++ attrsHtml t.attrs ++ " />".toList) ++
    if endsLine t next then ['\n'] else []

/-- A flow after a part that is hidden or not. -/
def Flow.htmlAfter (afterHidden : Bool) : Flow → Text
  | [] => []
  | .tag t :: rest => t.html afterHidden rest.head? ++ htmlAfter false rest
  | .hidden :: rest => htmlAfter true rest
  | .content i :: rest => Inline.htmlOf i ++ htmlAfter false rest
  | .raw t :: rest => t ++ htmlAfter false rest
  | .noteStart _ :: rest => htmlAfter false rest
  | .noteEnd :: rest => htmlAfter false rest

/-! ## Notes at the end -/

/-- The links back from a note to its references. -/
def backLinks (number references : Nat) : Flow :=
  (List.range references).map fun earlier =>
    .raw (" <a href=\"#fnref".toList ++ noteAnchor number earlier ++
      "\" class=\"footnote-backref\">\u21a9\ufe0e</a>".toList)

/-- Whether a part ends a paragraph. -/
def endsParagraph : Part → Bool
  | .tag t => t.nesting = .closing && t.name = ['p']
  | _ => false

/-- The content of a note with the links back, inside the paragraph that ends it if there is one. -/
def withBackLinks (links content : Flow) : Flow :=
  match content.getLast? with
  | some last =>
    if endsParagraph last then content.dropLast ++ links ++ [last] else content ++ links
  | none => links

/-- A note at the end. -/
def noteFlow (contents : List (Text × Flow)) (notes : NoteList) (number : Nat)
    (source : NoteSource) : Flow :=
  let (content, references) :=
    match source with
    | .written content => (paragraphFlow false content, 1)
    | .labelled label => ((contents.reverse.lookup label).getD [], notes.references label)
  .raw s!"<li id=\"fn{number + 1}\" class=\"footnote-item\">".toList ::
    withBackLinks (backLinks number references) content ++ [.raw "</li>\n".toList]

/-- The notes at the end, if there are any. -/
def notesFlow (contents : List (Text × Flow)) (notes : NoteList) : Flow :=
  if notes.sources.isEmpty then []
  else
    .raw ("<hr class=\"footnotes-sep\" />\n<section class=\"footnotes\">\n".toList ++
        "<ol class=\"footnotes-list\">\n".toList) ::
      notes.inOrder.flatMap (fun (number, source) => noteFlow contents notes number source) ++
      [.raw "</ol>\n</section>\n".toList]

/-- A text as HTML; `fence` writes the fenced blocks.  Model of `render` of the parser that
`renderer.build_markdown` makes. -/
def html (fence : FenceWriter) (t : Text) : Text :=
  let (flow, notes) := flowOf fence (Block.ofText t)
  Flow.htmlAfter false (Flow.withoutNotes false flow ++ notesFlow (Flow.noteContents flow) notes)

end Literate.Markdown

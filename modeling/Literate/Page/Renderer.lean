import Literate.Action
import Literate.Deck
import Literate.Html.Reading
import Literate.Html.Writing
import Literate.Markdown.Render
import Literate.Page.Fenced
import Literate.Page.Image
import Literate.Page.Pairing
import Literate.Page.Theme

/-!
# Pages

A document becomes a page of its own, and so does its deck of slides.  Only text that the exclusion
filter has cleaned is ever rendered.

* `Renderer.fragment` renders markdown.
* `Renderer.document` and `Renderer.deck` make pages.
* `slideFragments` renders slides for a preview, where failures are only logged.
-/

namespace Literate

open Text

/-- Where the style sheets of pages come from. -/
structure SheetSource where
  theme : Text → Except ConfigurationError Text
  code : Text → Except ConfigurationError Text

/-- What rendering needs besides the text: two style sheets, the directory of relative image sources,
and where paths are followed from.  Model of `renderer.Renderer`. -/
structure Renderer where
  themeCss : Text
  codeCss : Text
  base : FilePath
  cwd : Location
  homes : Homes

namespace Renderer

/-- A renderer for two themes; the code theme is looked at first.  Model of
`renderer.Renderer.__init__`. -/
def make (sheets : SheetSource) (around : Surroundings) (base : FilePath) (theme codeTheme : Text) :
    Except ConfigurationError Renderer := do
  let codeCss ← sheets.code codeTheme
  let themeCss ← sheets.theme theme
  pure { themeCss, codeCss, base, cwd := around.cwd, homes := around.homes }

/-! ## Fragments -/

/-- What an image source comes to in a file tree. -/
def image (r : Renderer) (tree : FileTree) (src : Text) : Except Failure ImageFile :=
  match ImageFile.find tree r.cwd r.homes r.base src with
  | .ok i => .ok i
  | .error (.path e) => .error (.path e)
  | .error (.file e) => .error (.file e)

/-- The data that stands for an image source.  Model of `renderer.Renderer._embed_image`. -/
def imageData (r : Renderer) (tree : FileTree) (src : Text) : Option Text :=
  match r.image tree src with
  | .ok i => i.data?
  | .error _ => none

/-- Looks at the images of a fragment; missing ones are reported. -/
def checkImages (r : Renderer) : List Text → Action Unit
  | [] => pure ()
  | src :: rest => do
    let i ← Action.ofExcept id (r.image (← Action.tree) src)
    if i = .missing then Action.log .warning ("Image not found: " ++ src.toStr)
    checkImages r rest

/-- The fragment as it is shown: blocks stand with their outputs, and images are inside.  Model of
`renderer.Renderer._post_process` between reading and writing the fragment. -/
def arranged (r : Renderer) (tree : FileTree) (ns : List Html.Node) : List Html.Node :=
  Html.embedIn (r.imageData tree) (Html.pairBlocks ns)

/-- Renders markdown to a fragment of a page.  Model of `renderer.Renderer.render_fragment`. -/
def fragment (r : Renderer) (markdown : Text) : Action Text := do
  let ns ← Action.ofExcept .markup (Html.readFragment (Markdown.html Fenced.html markdown))
  checkImages r (Html.imageSources (Html.pairBlocks ns))
  return Html.writeFragment (r.arranged (← Action.tree) ns)

/-- Renders markdown texts one after the other.  Model of `slides.slide_fragments` on the sources of
the slides. -/
def fragments (r : Renderer) : List Text → Action (List Text)
  | [] => pure []
  | t :: rest => do
    let f ← r.fragment t
    let fs ← fragments r rest
    pure (f :: fs)

/-! ## Pages -/

/-- The layout that no theme needs to repeat.  Model of `renderer.PAGE_CSS`. -/
def layoutCss : String :=
"
html, body \x7b margin: 0; padding: 0; box-sizing: border-box; \x7d
.deck \x7b display: flex; flex-direction: column; align-items: center; gap: 24px; padding: 24px 0; \x7d
.slide \x7b box-sizing: border-box; position: relative; page-break-after: always; \x7d
.deck .slide \x7b box-shadow: 0 2px 12px rgba(0, 0, 0, .25); \x7d
@media print \x7b
    .deck \x7b display: block; padding: 0; \x7d
    .deck .slide \x7b box-shadow: none; \x7d
    .code-block, .code-execution-pair \x7b break-inside: avoid; \x7d
\x7d
"

/-- A page with a title and a body.  Model of `renderer.Renderer._page`. -/
def page (r : Renderer) (title body : Text) : Text :=
  "<!DOCTYPE html>\n<html lang=\"en\">\n<head>\n<meta charset=\"UTF-8\">\n<title>".toList ++
    Html.escapeTitle title ++ "</title>\n<style>".toList ++ layoutCss.toList ++
    "</style>\n<style>".toList ++ r.themeCss ++ "</style>\n<style>".toList ++ r.codeCss ++
    "</style>\n</head>\n<body>\n".toList ++ body ++ "\n</body>\n</html>".toList

/-- The title of a page: that of the first slide that has one.  Model of
`renderer._document_title`. -/
def titleOf (o : Outline) : Text :=
  ((o.slides.map Slide.title).find? (!·.isEmpty)).getD "Document".toList

/-- The body of the page of a document. -/
def documentBody (content : Text) : Text :=
  "<article class=\"markdown-body\">\n".toList ++ content ++ "\n</article>".toList

/-- One slide in the body of a deck. -/
def slideSection (index : Nat) (content : Text) : Text :=
  (s!"<section class=\"slide\" data-index=\"{index}\">\n").toList ++ content ++ "\n</section>\n".toList

/-- The body of the page of a deck. -/
def deckBody (slides : List Text) : Text :=
  "<main class=\"deck\">\n".toList ++
    (slides.zipIdx.flatMap fun (content, index) => slideSection index content) ++ "</main>".toList

/-- The page of a document.  Model of `renderer.Renderer.document`. -/
def document (r : Renderer) (t : Text) : Action Text := do
  let o ← Action.outline t
  let content ← r.fragment (← Action.ofExcept .parse (exclude t .doc))
  pure (r.page (titleOf o) (documentBody content))

/-- The page of the deck of a document.  Model of `renderer.Renderer.deck`. -/
def deck (r : Renderer) (t : Text) : Action Text := do
  let o ← Action.outline t
  let slides ← r.fragments (← Action.ofExcept .parse (Deck.sources t))
  pure (r.page (titleOf o) (deckBody slides))

end Renderer

/-- The slides of a document for a preview: nothing when something goes wrong, which is logged.
Model of `slides.gen_slides`. -/
def slideFragments (renderer : Except ConfigurationError Renderer) (t : Text) : Action (List Text) :=
  tryCatch
    (do
      let r ← Action.ofExcept .configuration renderer
      let _ ← Action.outline t
      r.fragments (← Action.ofExcept .parse (Deck.sources t)))
    fun e => do
      Action.log .warning ("Slide generation failed: " ++ e.message)
      pure []

end Literate

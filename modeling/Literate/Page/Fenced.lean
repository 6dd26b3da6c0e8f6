import Literate.Html.Escape
import Literate.Info
import Literate.Outline.Basic

/-!
# Fenced blocks on a page

A block of a document is a box with its name, its language and its source; a recorded output is a box
of its own.  Options and markers never show.

* `Fenced.outputHtml`, `Fenced.blockHtml` write the two boxes.
* `Fenced.html` chooses between them.
-/

namespace Literate.Fenced

open Text

/-- A recorded output. -/
def outputHtml (content : Text) : Text :=
  "<div class=\"output\"><div class=\"output-header\">OUTPUT</div><div class=\"highlight\"><pre>".toList ++
    Html.escapeQuoted content ++ "</pre></div></div>\n".toList

/-- The source of a block as shown: without newlines at its ends but one, and without a byte order
mark.  Model of `literate_fence._highlight`, the spans of the highlighter apart. -/
def shownSource (source : Text) : Text :=
  let source := if source.head? = some '\uFEFF' then source.drop 1 else source
  dropEndWhile (· == '\n') ((plainEnds source).dropWhile (· == '\n')) ++ ['\n']

/-- The header of a block with a name. -/
def headerHtml (name language : Text) : Text :=
  "<div class=\"block-header\"><span class=\"block-tag\">".toList ++ Html.escapeQuoted name ++
    "</span><span class=\"block-language\">".toList ++ Html.escapeQuoted language ++
    "</span></div>".toList

/-- A block. -/
def blockHtml (info : Info) (source : Text) : Text :=
  let (attr, header) :=
    match info.name with
    | some name => (" data-block=\"".toList ++ Html.escapeQuoted name ++ ['"'], headerHtml name info.language)
    | none => ([], [])
  "<div class=\"code-block\"".toList ++ attr ++ '>' :: header ++
    "<div class=\"highlight\"><pre><span></span>".toList ++ Html.escapeCode (shownSource source) ++
    "</pre></div>\n</div>\n".toList

/-- A fenced block with an info string.  Model of `literate_fence._render_fence`. -/
def html (info content : Text) : Text :=
  if trim info == outputInfo then outputHtml content else blockHtml (Info.parse (trim info)) content

end Literate.Fenced

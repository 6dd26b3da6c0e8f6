import Literate.Text.Basic

/-!
# Inline markup

The content of a paragraph, a heading or a table cell: text, breaks, code, images and references to
notes, with the tags of links and emphasis between them.

* `Inline.shownIn` is what is left of a content where no markup can stand.
-/

namespace Literate.Markdown

/-- The elements that surround other inline content. -/
inductive Surround
  | emphasis
  | strong
  | struck
  | link (destination title : Text)
  deriving DecidableEq, Repr

/-- A piece of inline content. -/
inductive Inline
  | text (t : Text)
  /-- A character written with a backslash or as a reference. -/
  | special (t : Text)
  | softBreak
  | hardBreak
  | code (t : Text)
  | html (t : Text)
  | opening (s : Surround)
  | closing (s : Surround)
  | image (source title : Text) (content : List Inline)
  /-- A reference to the note with a number, and how many references to it came before. -/
  | noteRef (number earlier : Nat)
  deriving Inhabited

namespace Inline

mutual

/-- What is left of a piece where no markup can stand. -/
def shown : Inline → Text
  | text t => t
  | softBreak => ['\n']
  | image _ _ content => shownIn content
  | _ => []

/-- What is left of a content where no markup can stand. -/
def shownIn : List Inline → Text
  | [] => []
  | i :: rest => shown i ++ shownIn rest

end

end Inline

end Literate.Markdown

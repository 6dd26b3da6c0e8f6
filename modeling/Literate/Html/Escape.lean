import Literate.Text.Basic

/-!
# Escaping

Text inside markup: ampersands and angle brackets are written as character references.  What becomes
of the two quotation marks depends on where the text stands, so their spellings are parameters.
-/

namespace Literate.Html

/-- The spelling of a character whose quotation marks are spelled `double` and `single`. -/
def escapeChar (double single : Text) (c : Char) : Text :=
  if c = '&' then ['&', 'a', 'm', 'p', ';']
  else if c = '<' then ['&', 'l', 't', ';']
  else if c = '>' then ['&', 'g', 't', ';']
  else if c = '"' then double
  else if c = '\'' then single
  else [c]

/-- A text inside markup, with the spellings of the two quotation marks. -/
def escapeWith (double single : Text) (t : Text) : Text := t.flatMap (escapeChar double single)

/-- A text between tags, quotation marks as they are. -/
def escapeText (t : Text) : Text := escapeWith ['"'] ['\''] t

/-- A text that may stand in a double-quoted attribute. -/
def escape (t : Text) : Text := escapeWith ['&', 'q', 'u', 'o', 't', ';'] ['\''] t

/-- A text that may stand in any attribute.  Model of `html.escape` as
`literate_fence._render_fence` calls it. -/
def escapeQuoted (t : Text) : Text :=
  escapeWith ['&', 'q', 'u', 'o', 't', ';'] ['&', '#', 'x', '2', '7', ';'] t

/-- The source of a block between tags. -/
def escapeCode (t : Text) : Text :=
  escapeWith ['&', 'q', 'u', 'o', 't', ';'] ['&', '#', '3', '9', ';'] t

/-- The title of a page. -/
def escapeTitle (t : Text) : Text := escapeWith ['&', '#', '3', '4', ';'] ['&', '#', '3', '9', ';'] t

end Literate.Html

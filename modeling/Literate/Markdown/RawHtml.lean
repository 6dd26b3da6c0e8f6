import Literate.Text.Basic

/-!
# HTML inside markdown

Recognises tags, comments and the like where markdown lets them pass as they are.  Every recogniser
answers with what follows the construct.

* `RawHtml.inline?` recognises a construct inside a line of text.
* `RawHtml.blockKind?` says whether a line starts a block of HTML, and how that block ends.
-/

namespace Literate.Markdown.RawHtml

open Text

/-- Whether a character may start the name of an attribute. -/
def startsAttr (c : Char) : Bool := c.isAlpha || c = '_' || c = ':'

/-- Whether a character may stand in the name of an attribute. -/
def isAttrChar (c : Char) : Bool := startsAttr c || c.isDigit || c = '.' || c = '-'

/-- Whether a character may stand in a value without quotation marks. -/
def isBareChar (c : Char) : Bool :=
  32 < c.toNat && !(c = '"' || c = '\'' || c = '=' || c = '<' || c = '>' || c = '\x60')

/-- A text in quotation marks, the first of which was read. -/
def quoted? (quote : Char) (t : Text) : Option Text := (cut quote t).2

/-- The value of an attribute. -/
def value? : Text → Option Text
  | '\'' :: r => quoted? '\'' r
  | '"' :: r => quoted? '"' r
  | t => if (t.takeWhile isBareChar).isEmpty then none else some (t.dropWhile isBareChar)

/-- The rest of an attribute after its name: an equals sign and a value, or nothing. -/
def afterName (t : Text) : Text :=
  match t.dropWhile isBlank with
  | '=' :: r => (value? (r.dropWhile isBlank)).getD t
  | _ => t

/-- The end of an opening tag: attributes, then a bracket; `fuel` bounds the number of attributes. -/
def tagEnd? : Nat → Text → Option Text
  | 0, _ => none
  | fuel + 1, t =>
    let r := t.dropWhile isBlank
    match r with
    | '>' :: rest => some rest
    | '/' :: '>' :: rest => some rest
    | c :: _ =>
      if r.length < t.length && startsAttr c then
        tagEnd? fuel (afterName (r.dropWhile isAttrChar))
      else none
    | [] => none

/-- Whether a character may stand in the name of a tag. -/
def isTagChar (c : Char) : Bool := c.isAlphanum || c = '-'

/-- An opening tag whose bracket was read. -/
def opening? : Text → Option Text
  | c :: r => if c.isAlpha then tagEnd? (r.length + 1) (r.dropWhile isTagChar) else none
  | [] => none

/-- A closing tag whose bracket and slash were read. -/
def closing? : Text → Option Text
  | c :: r =>
    if c.isAlpha then
      match (r.dropWhile isTagChar).dropWhile isBlank with
      | '>' :: rest => some rest
      | _ => none
    else none
  | [] => none

/-- The end of a comment. -/
def commentEnd? : Text → Option Text
  | '-' :: '-' :: '>' :: rest => some rest
  | '-' :: '-' :: _ :: r => commentEnd? r
  | '-' :: c :: r => if c = '-' then none else commentEnd? r
  | '-' :: [] => none
  | _ :: r => commentEnd? r
  | [] => none

/-- A comment whose first four characters were read. -/
def comment? : Text → Option Text
  | '>' :: rest => some rest
  | '-' :: '>' :: rest => some rest
  | t => commentEnd? t

/-- What follows the first occurrence of a text. -/
def after? (part : Text) (t : Text) : Option Text :=
  (search (fun s => (afterPrefix? part s).map fun rest => ((), rest)) t).map fun (_, _, rest) => rest

/-- A tag, comment, instruction, declaration or section at the front of a text. -/
def inline? (t : Text) : Option Text :=
  match t with
  | '<' :: '/' :: r => closing? r
  | '<' :: '!' :: '-' :: '-' :: r => comment? r
  | '<' :: '?' :: r => after? ['?', '>'] r
  | '<' :: '!' :: '[' :: r =>
    match afterPrefix? "CDATA[".toList r with
    | some s => after? [']', ']', '>'] s
    | none => none
  | '<' :: '!' :: c :: r => if c.isAlpha then (cut '>' r).2 else none
  | '<' :: r => opening? r
  | _ => none

/-- How a block of HTML ends. -/
inductive BlockKind
  /-- With the line that holds one of these texts, in any case. -/
  | until (ends : List Text)
  /-- Before the next blank line. -/
  | blank
  /-- Before the next blank line; it does not break into a paragraph. -/
  | lone
  deriving DecidableEq, Repr

/-- Elements whose blocks end with their end tags. -/
def verbatimNames : List String := ["script", "pre", "style", "textarea"]

/-- Elements whose blocks end before a blank line. -/
def blockNames : List String :=
  ["address", "article", "aside", "base", "basefont", "blockquote", "body", "caption", "center", "col",
   "colgroup", "dd", "details", "dialog", "dir", "div", "dl", "dt", "fieldset", "figcaption", "figure",
   "footer", "form", "frame", "frameset", "h1", "h2", "h3", "h4", "h5", "h6", "head", "header", "hr",
   "html", "iframe", "legend", "li", "link", "main", "menu", "menuitem", "nav", "noframes", "ol",
   "optgroup", "option", "p", "param", "search", "section", "summary", "table", "tbody", "td", "tfoot",
   "th", "thead", "title", "tr", "track", "ul"]

/-- The name at the front of a text, in lower case, and what follows. -/
def nameOf (t : Text) : Text × Text :=
  let name := t.takeWhile Char.isAlphanum
  (name.map Char.toLower, t.drop name.length)

/-- Whether a text ends or goes on with a blank or a closing bracket. -/
def endsName : Text → Bool
  | [] => true
  | c :: _ => isBlank c || c = '>'

/-- The end tags of elements. -/
def endTags (names : List String) : List Text := names.map fun n => ("</" ++ n ++ ">").toList

/-- The kind of block whose first line begins with one of the elements of `blockNames`. -/
def elementKind? (t : Text) : Option BlockKind :=
  let (name, rest) := nameOf (match t with | '/' :: r => r | r => r)
  let closes := endsName rest || (afterPrefix? ['/', '>'] rest).isSome
  if blockNames.any (·.toList == name) && closes then some .blank else none

/-- Whether a line is one tag and blanks. -/
def isLoneTag (line : Line) : Bool :=
  let rest? := match line with
    | '<' :: '/' :: r => closing? r
    | '<' :: r => opening? r
    | _ => none
  match rest? with
  | some rest => allBlank rest
  | none => false

/-- The kind of block a line starts, if it starts one. -/
def blockKind? (line : Line) : Option BlockKind :=
  match line with
  | '<' :: r =>
    let (name, rest) := nameOf r
    if verbatimNames.any (·.toList == name) && endsName rest then
      some (.until (endTags verbatimNames))
    else if (afterPrefix? ['!', '-', '-'] r).isSome then some (.until [['-', '-', '>']])
    else if (afterPrefix? ['?'] r).isSome then some (.until [['?', '>']])
    else if (afterPrefix? "![CDATA[".toList r).isSome then some (.until [[']', ']', '>']])
    else
      let declares := match r with
        | '!' :: c :: _ => c.isUpper
        | _ => false
      if declares then some (.until [['>']])
      else
        match elementKind? r with
        | some k => some k
        | none => if isLoneTag line then some .lone else none
  | _ => none

/-- Whether a line ends a block of a kind. -/
def BlockKind.isEnd (k : BlockKind) (line : Line) : Bool :=
  match k with
  | .until ends => ends.any fun e => occursIn e (line.map Char.toLower)
  | _ => line.isEmpty

end Literate.Markdown.RawHtml

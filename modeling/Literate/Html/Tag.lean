import Literate.Html.CharRef
import Literate.Html.Tree
import Literate.Text.Case

/-!
# Start tags

Reads the name and the attributes of a start tag.  Attribute values may be quoted either way or not
at all; a quotation mark that is never closed is no value.  `TagReading` says what became of it.
-/

namespace Literate.Html

open Text

/-- A start tag, read. -/
structure StartTag where
  name : Text
  attrs : Attributes
  /-- Whether a slash stands before the closing bracket. -/
  closed : Bool

/-- What a text that begins like a start tag turns out to be. -/
inductive TagReading
  | tag (t : StartTag) (rest : Text)
  /-- No tag; `source` is what was taken for one. -/
  | broken (source rest : Text)
  /-- The text ends before the tag does. -/
  | incomplete

namespace StartTag

/-- Whether a character ends the name of a tag. -/
def endsName (c : Char) : Bool :=
  c = '\t' || c = '\n' || c = '\r' || c.toNat = 12 || c = ' ' || c = '/' || c = '>' || c = '\x00'

/-- Drops blanks and slashes, other than a slash before the closing bracket. -/
def skipGap : Text → Text
  | [] => []
  | '/' :: '>' :: r => '/' :: '>' :: r
  | c :: r => if isBlank c || c = '/' then skipGap r else c :: r

/-- Whether a name may stand right after a character. -/
def admitsName (c : Char) : Bool := c = '\'' || c = '"' || c = '/' || isBlank c

/-- The quoted text after `quote`, and what follows its end. -/
def quotedValue? (quote : Char) (t : Text) : Option (Text × Text) :=
  match cut quote t with
  | (value, some rest) => some (value, rest)
  | (_, none) => none

/-- A value without quotation marks. -/
def bareValue (t : Text) : Text := t.takeWhile fun c => !(c = '>' || isBlank c)

/-- The value after an attribute name, and what follows it. -/
def value? (t : Text) : Option (Text × Text) :=
  let signs := (t.dropWhile isBlank).takeWhile (· == '=')
  let after := (t.dropWhile isBlank).dropWhile (· == '=')
  if signs.isEmpty then none
  else
    let body := after.dropWhile isBlank
    let unclosed : Option (Text × Text) :=
      if body.length < after.length then some ([], body)
      else if 1 < signs.length then
        let value := '=' :: bareValue body
        some (value, body.drop (value.length - 1))
      else none
    match body with
    | '\'' :: r => (quotedValue? '\'' r).orElse fun _ => unclosed
    | '"' :: r => (quotedValue? '"' r).orElse fun _ => unclosed
    | _ => some (bareValue body, body.drop (bareValue body).length)

/-- The attributes at the front of a text and what follows them; `fuel` bounds their number, and
`admitted` says whether a name may start. -/
def attributes : Nat → Bool → Text → Attributes × Text
  | 0, _, t => ([], t)
  | fuel + 1, admitted, t =>
    let start := skipGap t
    match start with
    | [] => ([], [])
    | c :: r =>
      if (admitted || start.length < t.length) && !(c = '/' || c = '>') then
        let name := c :: r.takeWhile fun d => !(isBlank d || d = '/' || d = '=' || d = '>')
        let rest := r.drop (name.length - 1)
        match value? rest with
        | some (value, rest) =>
          let (more, rest) := attributes fuel true rest
          ((lower name, CharRef.unescape value) :: more, rest)
        | none =>
          let (more, rest) := attributes fuel ((name.getLast?.map admitsName).getD false) rest
          ((lower name, []) :: more, rest)
      else ([], start)

/-- Reads a start tag, which begins with an opening bracket and a letter. -/
def read (t : Text) : TagReading :=
  let name := (t.drop 1).takeWhile (!endsName ·)
  let (attrs, rest) :=
    attributes t.length ((name.getLast?.map admitsName).getD false) (t.drop (name.length + 1))
  match rest with
  | '>' :: rest => .tag ⟨lower name, attrs, false⟩ rest
  | '/' :: '>' :: rest => .tag ⟨lower name, attrs, true⟩ rest
  | [] => .incomplete
  | c :: _ =>
    if c.isAlpha || c = '=' then .incomplete
    else .broken (t.take (t.length - rest.length)) rest

end StartTag

end Literate.Html

import Literate.Html.Escape
import Literate.Html.Tree

/-!
# Writing trees

The text of a fragment: attributes in the order of their names, void elements with a closing slash,
no other references than those of `escapeText`.

* `writeNode` writes a node, `writeFragment` a fragment.
-/

namespace Literate.Html

open Text

/-- Whether one key comes before another, character by character. -/
def keyLe : Text → Text → Bool
  | [], _ => true
  | _ :: _, [] => false
  | a :: r, b :: s => if a = b then keyLe r s else a.toNat < b.toNat

/-- A value between quotation marks: double ones, unless it holds some and no single one. -/
def writeValue (v : Text) : Text :=
  let t := escapeText v
  if t.contains '"' then
    if t.contains '\'' then '"' :: replace ['"'] "&quot;".toList t ++ ['"']
    else '\'' :: t ++ ['\'']
  else '"' :: t ++ ['"']

/-- Replaces the encoding named in a content type, up to the next semicolon. -/
def declareEncoding (fuel : Nat) (atStart : Bool) (t : Text) : Text :=
  match fuel, t with
  | 0, t => t
  | _, [] => []
  | fuel + 1, c :: r =>
    let rest? := if atStart then afterPrefix? "charset=".toList (c :: r) else none
    match rest? with
    | some rest =>
      "charset=utf-8".toList ++ declareEncoding fuel false (rest.dropWhile (· != ';'))
    | none => c :: declareEncoding fuel (isBlank c || c = ';') r

/-- The attributes as written: an encoding that is named there is the one the page is written in. -/
def writtenAttrs (name : Text) (attrs : Attributes) : Attributes :=
  if name != "meta".toList then attrs
  else if (attrs.lookup "charset".toList).isSome then
    Attributes.set "charset".toList "utf-8".toList attrs
  else
    match attrs.lookup "content".toList, attrs.lookup "http-equiv".toList with
    | some content, some kind =>
      if kind.map Char.toLower == "content-type".toList then
        Attributes.set "content".toList (declareEncoding (content.length + 1) true content) attrs
      else attrs
    | _, _ => attrs

/-- The attributes of an element, each after a space. -/
def writeAttrs (name : Text) (attrs : Attributes) : Text :=
  ((writtenAttrs name attrs).mergeSort fun a b => keyLe a.1 b.1).flatMap fun (k, v) =>
    ' ' :: k ++ '=' :: writeValue v

/-- A note between its marks. -/
def writeNote (kind : NoteKind) (content : Text) : Text :=
  match kind with
  | .comment => "<!--".toList ++ content ++ "-->".toList
  | .doctype => "<!DOCTYPE ".toList ++ content ++ ">\n".toList
  | .section => "<![CDATA[".toList ++ content ++ "]]>".toList
  | .declaration => "<?".toList ++ content ++ "?>".toList
  | .instruction => "<?".toList ++ content ++ ">".toList

/-- Whether the text right inside an element is written as it is. -/
def isVerbatim (name : Text) : Bool := name == "script".toList || name == "style".toList

mutual

/-- A node inside an element whose text is written as it is or not. -/
def writeNode (verbatim : Bool) : Node → Text
  | .text t => if verbatim then t else escapeText t
  | .note kind content => writeNote kind content
  | .element name attrs children =>
    let head := '<' :: name ++ writeAttrs name attrs
    if isVoid name && children.isEmpty then head ++ ['/', '>']
    else
      head ++ '>' :: writeNodes (isVerbatim name) children ++ '<' :: '/' :: name ++ ['>']

/-- Nodes one after the other. -/
def writeNodes (verbatim : Bool) : List Node → Text
  | [] => []
  | n :: rest => writeNode verbatim n ++ writeNodes verbatim rest

end

/-- The text of a fragment.  Model of the text that `renderer.Renderer._post_process` returns for a
soup. -/
def writeFragment (nodes : List Node) : Text := writeNodes false nodes

end Literate.Html

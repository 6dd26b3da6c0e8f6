import Literate.Html.Event

/-!
# Reading trees

Puts the events of a text together to a fragment.  An end tag closes the innermost open element of
its name and everything inside it; without one it is ignored.  Whatever is open at the end is closed
there.

* `Builder.step` takes one event.
* `readFragment` reads a fragment.
-/

namespace Literate.Html

open Text

/-- An element that is still open, with its children so far, the last one first. -/
structure OpenElement where
  name : Text
  attrs : Attributes
  children : List Node

/-- The state of reading: open elements, the innermost first. -/
structure Builder where
  path : List OpenElement
  /-- The nodes before the outermost open element, the last one first. -/
  top : List Node
  /-- Text that may go on. -/
  pending : Text
  /-- Void elements that were closed without an end tag; one end tag of each name means nothing. -/
  closedVoids : List Text

namespace Builder

/-- Nothing read so far. -/
def empty : Builder := ⟨[], [], [], []⟩

/-- Appends a node to the innermost open element. -/
def append (b : Builder) (n : Node) : Builder :=
  match b.path with
  | [] => { b with top := n :: b.top }
  | e :: outer => { b with path := { e with children := n :: e.children } :: outer }

/-- The space characters that a run of which counts as one. -/
def isSpace (c : Char) : Bool := c = ' ' || c = '\n' || c = '\t' || c.toNat = 12 || c = '\r'

/-- Whether space counts as written: inside preformatted text and text fields. -/
def keepsSpace (b : Builder) : Bool :=
  b.path.any fun e => e.name == "pre".toList || e.name == "textarea".toList

/-- A text of space alone counts as one newline or one space. -/
def condense (keep : Bool) (t : Text) : Text :=
  if keep || !t.all isSpace then t else if t.contains '\n' then ['\n'] else [' ']

/-- Ends the text that may go on. -/
def flush (b : Builder) : Builder :=
  if b.pending.isEmpty then b
  else { b.append (.text (condense b.keepsSpace b.pending)) with pending := [] }

/-- Closes the innermost open element. -/
def closeOne (b : Builder) : Builder :=
  match b.path with
  | [] => b
  | e :: outer => { b with path := outer }.append (.element e.name e.attrs e.children.reverse)

/-- Closes a number of open elements. -/
def close (b : Builder) : Nat → Builder
  | 0 => b
  | n + 1 => b.closeOne.close n

/-- Closes the innermost open element of a name and everything inside it. -/
def closeNamed (b : Builder) (name : Text) : Builder :=
  match b.path.findIdx? (·.name == name) with
  | none => b.flush
  | some i => b.flush.close (i + 1)

/-- Attributes whose values are lists of words, for every element and by element. -/
def isWordList (element key : Text) : Bool :=
  let k := key.toStr
  ["class", "accesskey", "dropzone"].contains k ||
    match element.toStr with
    | "a" | "link" => k == "rel" || k == "rev"
    | "area" => k == "rel"
    | "td" | "th" => k == "headers"
    | "form" => k == "accept-charset"
    | "object" => k == "archive"
    | "icon" => k == "sizes"
    | "iframe" => k == "sandbox"
    | "output" => k == "for"
    | _ => false

/-- The attributes as kept: the last value of each, lists of words with single spaces. -/
def normalise (element : Text) (attrs : Attributes) : Attributes :=
  (attrs.foldl (fun kept (k, v) => Attributes.set k v kept) []).map fun (k, v) =>
    if isWordList element k then (k, join [' '] (words v)) else (k, v)

/-- An end tag. -/
def stop (b : Builder) (name : Text) : Builder :=
  if b.closedVoids.contains name then { b with closedVoids := b.closedVoids.erase name }
  else b.closeNamed name

/-- A start tag. -/
def start (b : Builder) (t : StartTag) : Builder :=
  let b := b.flush
  let b := { b with path := ⟨t.name, normalise t.name t.attrs, []⟩ :: b.path }
  if t.closed then b.stop t.name
  else if isVoid t.name then
    let b := b.closeOne
    { b with closedVoids := b.closedVoids ++ [t.name] }
  else b

/-- One event. -/
def step (b : Builder) : Event → Builder
  | .text t => { b with pending := b.pending ++ t }
  | .start t => b.start t
  | .stop name => b.stop name
  | .note kind content => let b := b.flush; b.append (.note kind (condense b.keepsSpace content))

/-- The fragment read so far, with everything closed. -/
def finish (b : Builder) : List Node :=
  let b := b.flush
  (b.close b.path.length).top.reverse

end Builder

/-- The fragment that events make. -/
def ofEvents (events : List Event) : List Node := (events.foldl Builder.step .empty).finish

/-- Reads a fragment.  Model of `BeautifulSoup` on `html.parser`, as
`renderer.Renderer._post_process` calls it. -/
def readFragment (t : Text) : Except MarkupError (List Node) :=
  match Event.ofText t with
  | .error e => .error e
  | .ok events => .ok (ofEvents events)

end Literate.Html

import Literate.Text.Basic

/-!
# Trees of elements

A fragment is a list of nodes; `elements` lists its elements in document order.
-/

namespace Literate.Html

/-- The attributes of an element, in the order written. -/
abbrev Attributes := List (Text × Text)

/-- What is neither an element nor text. -/
inductive NoteKind
  | comment
  | doctype
  | section
  | declaration
  | instruction
  deriving DecidableEq, Repr

/-- A node of a fragment. -/
inductive Node
  | element (name : Text) (attrs : Attributes) (children : List Node)
  | text (t : Text)
  | note (kind : NoteKind) (content : Text)
  deriving Inhabited

namespace Node

/-- Whether a node is an element. -/
def isElement : Node → Bool
  | element _ _ _ => true
  | _ => false

/-- The classes of a node, none for what is no element. -/
def classes : Node → List Text
  | element _ attrs _ => Text.words ((attrs.lookup ['c', 'l', 'a', 's', 's']).getD [])
  | _ => []

mutual

/-- The elements at a node in document order: names and attributes. -/
def elements : Node → List (Text × Attributes)
  | element name attrs children => (name, attrs) :: elementsIn children
  | text _ => []
  | note _ _ => []

/-- The elements of a fragment in document order. -/
def elementsIn : List Node → List (Text × Attributes)
  | [] => []
  | n :: rest => elements n ++ elementsIn rest

end

end Node

/-- Sets an attribute, in place when it is there. -/
def Attributes.set (key value : Text) : Attributes → Attributes
  | [] => [(key, value)]
  | (k, v) :: rest => if k = key then (key, value) :: rest else (k, v) :: Attributes.set key value rest

/-- Elements that have no content and no end tag. -/
def voidNames : List String :=
  ["area", "base", "br", "col", "embed", "hr", "img", "input", "keygen", "link", "menuitem", "meta",
   "param", "source", "track", "wbr", "basefont", "bgsound", "command", "frame", "image", "isindex",
   "nextid", "spacer"]

/-- Whether elements of a name have no content. -/
def isVoid (name : Text) : Bool := voidNames.any (·.toList == name)

end Literate.Html

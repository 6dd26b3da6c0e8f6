import Literate.Html.Tree

/-!
# Blocks and their outputs

On a page a block and the output that follows it share a container, so that they stay together.  The
blocks of a fragment are selected first.  Then each has its turn, in document order, while nodes are
moved in the tree that all of them stand in: so elements are told apart by keys, by which a block is
found wherever the turns before have put it.

Models the first loop of `renderer.Renderer._post_process`.

* `Keyed` is a node of such a tree.
* `Keyed.blockKeysIn` selects the blocks, `Keyed.turnIn` is the turn of one.
* `pairBlocks` pairs the blocks and outputs of a fragment.
-/

namespace Literate.Html

open Text

/-- The class of a block. -/
def blockClass : Text := "code-block".toList

/-- The class of an output. -/
def outputClass : Text := "output".toList

/-- The class of the container that a block shares with its output. -/
def pairClass : Text := "code-execution-pair".toList

namespace Node

/-- Whether a node is a block. -/
def isBlock : Node → Bool
  | n@(element name _ _) => name == "div".toList && n.classes.contains blockClass
  | _ => false

/-- Whether a node is an output. -/
def isOutput (n : Node) : Bool := n.isElement && n.classes.contains outputClass

/-- A container of blocks and outputs. -/
def containerOf (children : List Node) : Node :=
  .element "div".toList [("class".toList, pairClass)] children

end Node

/-! ## Trees in which nodes are moved -/

/-- A node of a tree in which nodes are moved. -/
inductive Keyed
  /-- An element that was read; no other one has its key. -/
  | element (key : Nat) (name : Text) (attrs : Attributes) (children : List Keyed)
  /-- A container that was put in, which nobody looks for. -/
  | container (children : List Keyed)
  | text (t : Text)
  | note (kind : NoteKind) (content : Text)

namespace Keyed

mutual

/-- A node without keys. -/
def node : Keyed → Node
  | element _ name attrs children => .element name attrs (nodes children)
  | container children => .containerOf (nodes children)
  | text t => .text t
  | note kind content => .note kind content

/-- Nodes without keys. -/
def nodes : List Keyed → List Node
  | [] => []
  | n :: rest => node n :: nodes rest

end

mutual

/-- Gives keys to the elements at a node, in document order from the next one on; and the next one
then. -/
def ofNode (next : Nat) : Node → Keyed × Nat
  | .element name attrs children =>
    let (children, last) := ofNodes (next + 1) children
    (element next name attrs children, last)
  | .text t => (text t, next)
  | .note kind content => (note kind content, next)

/-- Gives keys to the elements of a fragment. -/
def ofNodes (next : Nat) : List Node → List Keyed × Nat
  | [] => ([], next)
  | n :: rest =>
    let (n, next) := ofNode next n
    let (rest, last) := ofNodes next rest
    (n :: rest, last)

end

/-- A node by itself: an element without what is inside. -/
def head : Keyed → Node
  | element _ name attrs _ => .element name attrs []
  | container _ => .containerOf []
  | text t => .text t
  | note kind content => .note kind content

/-- The key of a node. -/
def key? : Keyed → Option Nat
  | element key _ _ _ => some key
  | _ => none

/-! ## The turns of the blocks -/

mutual

/-- The keys of the blocks at a node in document order. -/
def blockKeys : Keyed → List Nat
  | n@(element key _ _ children) => (if n.head.isBlock then [key] else []) ++ blockKeysIn children
  | container children => blockKeysIn children
  | text _ => []
  | note _ _ => []

/-- The keys of the blocks of a fragment in document order. -/
def blockKeysIn : List Keyed → List Nat
  | [] => []
  | n :: rest => blockKeys n ++ blockKeysIn rest

end

/-- The next element among siblings, with what stands before it and after it. -/
def nextElement? : List Keyed → Option (List Keyed × Keyed × List Keyed)
  | [] => none
  | n :: rest =>
    if n.head.isElement then some ([], n, rest)
    else (nextElement? rest).map fun (between, sibling, after) => (n :: between, sibling, after)

/-- A block before its siblings: with the next element in a container if that is an output.  What
stood between the two comes behind the container. -/
def pairNext (block : Keyed) (rest : List Keyed) : List Keyed :=
  match nextElement? rest with
  | some (between, sibling, after) =>
    if sibling.head.isOutput then container [block, sibling] :: between ++ after else block :: rest
  | none => block :: rest

mutual

/-- The turn of the block with a key, inside a node. -/
def turn (key : Nat) : Keyed → Keyed
  | element k name attrs children => element k name attrs (turnIn key children)
  | container children => container (turnIn key children)
  | n => n

/-- The turn of the block with a key, wherever it stands in a fragment. -/
def turnIn (key : Nat) : List Keyed → List Keyed
  | [] => []
  | n :: rest => if n.key? = some key then pairNext n rest else turn key n :: turnIn key rest

end

/-- The turns of blocks, one after the other. -/
def turns (keys : List Nat) (ns : List Keyed) : List Keyed :=
  keys.foldl (fun ns key => turnIn key ns) ns

end Keyed

/-- Pairs the blocks and outputs of a fragment: the blocks are those of the fragment as it was read.
Model of the first loop of `renderer.Renderer._post_process`. -/
def pairBlocks (ns : List Node) : List Node :=
  let tree := (Keyed.ofNodes 0 ns).1
  Keyed.nodes (Keyed.turns (Keyed.blockKeysIn tree) tree)

end Literate.Html

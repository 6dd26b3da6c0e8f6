import Literate.Text.Basic

/-!
# Fences

A fence line opens or closes a block: at most three spaces, a run of at least three backticks or
tildes, and the rest of the line.  The rest of a backtick fence holds no backtick.

* `Fence.ofLine?` reads a fence line.
* `Fence.closes` says which fence lines have to do with an open block: those of its character with
  at least its length.
-/

namespace Literate

open Text

/-- The two fence characters. -/
inductive FenceKind
  | backtick
  | tilde
  deriving DecidableEq, Repr

namespace FenceKind

/-- The character a fence is made of. -/
def char : FenceKind → Char
  | backtick => '\x60'
  | tilde => '~'

/-- The kind of fence a character makes. -/
def ofChar? (c : Char) : Option FenceKind :=
  if c = '\x60' then some backtick else if c = '~' then some tilde else none

end FenceKind

/-- A fence line, read.  Model of the groups of `structure.FENCE_RE`. -/
structure Fence where
  /-- Number of spaces before the fence. -/
  indent : Nat
  kind : FenceKind
  /-- Number of fence characters. -/
  length : Nat
  /-- The rest of the line as written. -/
  rest : Text
  deriving DecidableEq, Repr

namespace Fence

/-- The run of fence characters. -/
def marker (f : Fence) : Text := List.replicate f.length f.kind.char

/-- The info string: the rest of the line without blanks at its ends. -/
def info (f : Fence) : Text := trim f.rest

/-- Reads a fence whose run starts the text. -/
def ofRun? (indent : Nat) : Text → Option Fence
  | [] => none
  | c :: r =>
    match FenceKind.ofChar? c with
    | none => none
    | some kind =>
      let length := ((c :: r).takeWhile (· == c)).length
      let rest := (c :: r).dropWhile (· == c)
      if length < 3 then none
      else if kind = .backtick && rest.contains '\x60' then none
      else some ⟨indent, kind, length, rest⟩

/-- Reads a fence line.  Model of `structure.StructureParser._match_fence`. -/
def ofLine? (l : Line) : Option Fence :=
  let indent := (l.takeWhile (· == ' ')).length
  if 3 < indent then none else ofRun? indent (l.dropWhile (· == ' '))

/-- Whether `f` is a fence of the opener's character with at least its length. -/
def closes (opener f : Fence) : Bool := f.kind = opener.kind && opener.length ≤ f.length

end Fence

end Literate

import Literate.Text.Basic

/-!
# References in a line

A reference `@[name]` stands for the source of the block of that name.  A line is cut into the text
before its first reference, and then references each with the text that follows it.
-/

namespace Literate.Reference

open Text

/-- The characters of a name that can be referred to. -/
def isNameChar (c : Char) : Bool :=
  ('a' ≤ c && c ≤ 'z') || ('A' ≤ c && c ≤ 'Z') || ('0' ≤ c && c ≤ '9') || c == '_' || c == '.'
    || c == '-'

/-- Recognises a reference.  Model of `tangle.MACRO_RE`. -/
def match? (t : Text) : Option (Text × Text) :=
  match t with
  | '@' :: '[' :: r =>
    let name := r.takeWhile isNameChar
    match r.dropWhile isNameChar with
    | ']' :: after => if name.isEmpty then none else some (name, after)
    | _ => none
  | _ => none

/-- The first reference of a line: the text before it, its name, the text after it. -/
def first? (l : Line) : Option (Text × Text × Text) := search match? l

/-- The text before the first reference, and each reference with the text up to the next one. -/
structure Segments where
  lead : Text
  rest : List (Text × Text)
  deriving DecidableEq, Repr

/-- Adds a character in front. -/
def Segments.cons (c : Char) (s : Segments) : Segments := { s with lead := c :: s.lead }

/-- Cuts a line at its references; `skip` counts the characters that belong to a reference already
read. -/
def segmentsFrom : Nat → Line → Segments
  | _, [] => ⟨[], []⟩
  | skip + 1, _ :: r => segmentsFrom skip r
  | 0, c :: r =>
    match match? (c :: r) with
    | none => (segmentsFrom 0 r).cons c
    | some (name, _) =>
      let s := segmentsFrom (name.length + 2) r
      ⟨[], (name, s.lead) :: s.rest⟩

/-- Cuts a line at its references. -/
def segments (l : Line) : Segments := segmentsFrom 0 l

/-- The names a line refers to, from left to right. -/
def names (l : Line) : List Text := (segments l).rest.map Prod.fst

end Literate.Reference

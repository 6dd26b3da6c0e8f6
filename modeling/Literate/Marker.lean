import Literate.Text.Basic

/-!
# Exclusion markers

A marker is `%` (for the document) or `&` (for the slides), alone or followed by the letter of a
scope: `p` a paragraph, `l` a list, `i` a list item.  Markers are the last words of a line and can be
stacked, as in `some text %p &`.

* `find` gives the trailing markers in the order written.
* `strip` gives the text before them; a text without markers is left alone.
-/

namespace Literate

/-- What content is being prepared for.  Model of `markers.FilterTarget`. -/
inductive Target
  | doc
  | slides
  deriving DecidableEq, Repr

namespace Target

/-- The character that excludes content from this target.  Model of
`markers.FilterTarget.symbol`. -/
def symbol : Target → Char
  | doc => '%'
  | slides => '&'

/-- The target a character excludes content from. -/
def ofSymbol? (c : Char) : Option Target :=
  if c = '%' then some doc else if c = '&' then some slides else none

end Target

/-- How much a marker excludes; a bare marker excludes its own line. -/
inductive Scope
  | bare
  | paragraph
  | list
  | item
  deriving DecidableEq, Repr

namespace Scope

/-- The letter of a scope, empty for a bare marker. -/
def suffix : Scope → Text
  | bare => []
  | paragraph => ['p']
  | list => ['l']
  | item => ['i']

/-- The scope a suffix stands for. -/
def ofSuffix? : Text → Option Scope
  | [] => some bare
  | ['p'] => some paragraph
  | ['l'] => some list
  | ['i'] => some item
  | _ => none

end Scope

/-- One exclusion marker. -/
structure Marker where
  target : Target
  scope : Scope
  deriving DecidableEq, Repr

namespace Marker

open Text

/-- The marker as written. -/
def render (m : Marker) : Text := m.target.symbol :: m.scope.suffix

/-- The marker that a word is, if it is one.  Model of `markers.ONE_MARKER`. -/
def ofWord? : Text → Option Marker
  | [] => none
  | c :: s =>
    match Target.ofSymbol? c, Scope.ofSuffix? s with
    | some target, some scope => some ⟨target, scope⟩
    | _, _ => none

/-- Takes markers off the front of a reversed text that does not begin with a blank: the rest, and
the markers in the order met.  Model of `markers.TRAILING_MARKERS`. -/
def peel (r : Text) : Text × List Marker :=
  match r with
  | [] => ([], [])
  | c :: s =>
    let word := (c :: s).takeWhile (!isBlank ·)
    match ofWord? word.reverse with
    | none => (c :: s, [])
    | some m =>
      let (rest, ms) := peel (trimStart (s.dropWhile (!isBlank ·)))
      (rest, m :: ms)
termination_by r.length
decreasing_by
  have h1 := (List.dropWhile_suffix (!isBlank ·) : s.dropWhile (!isBlank ·) <:+ s).length_le
  have h2 := length_trimStart_le (s.dropWhile (!isBlank ·))
  simp only [List.length_cons]
  omega

/-- The markers at the end of a text, in the order written.  Model of `markers.find_markers`. -/
def find (t : Text) : List Marker := (peel (trimStart t.reverse)).2.reverse

/-- The text before its trailing markers; a text without any is unchanged.  Model of
`markers.strip_markers`. -/
def strip (t : Text) : Text :=
  let (rest, ms) := peel (trimStart t.reverse)
  if ms.isEmpty then t else rest.reverse

/-- Whether the text carries the marker of `target` with exactly this scope.  Model of
`markers.has_marker`. -/
def has (target : Target) (scope : Scope) (t : Text) : Bool :=
  (find t).contains ⟨target, scope⟩

end Marker

end Literate

import Literate.Markdown.Inline

/-!
# The list of notes

Notes are numbered in the order in which they are first referred to.  A note is either defined
elsewhere under a label or written where it is referred to.

* `NoteList.refer` counts a reference to a label.
* `NoteList.put` gives a number to a note that is written in place.
-/

namespace Literate.Markdown

/-- Where the content of a numbered note stands. -/
inductive NoteSource
  | labelled (label : Text)
  | written (content : List Inline)
  deriving Inhabited

/-- The notes numbered so far. -/
structure NoteList where
  /-- Labels with their numbers, and how often each was referred to. -/
  numbers : List (Text × Nat × Nat)
  /-- The notes by number. -/
  sources : List (Nat × NoteSource)

namespace NoteList

/-- No note has a number. -/
def empty : NoteList := ⟨[], []⟩

/-- How many notes have a number. -/
def size (l : NoteList) : Nat := l.sources.length

/-- Puts a note under a number, in place of one that is there. -/
def put (l : NoteList) (number : Nat) (s : NoteSource) : NoteList :=
  { l with sources := (l.sources.filter fun e => e.1 != number) ++ [(number, s)] }

/-- Counts a reference to a label: the number of the note, how many references came before, and the
list from then on. -/
def refer (l : NoteList) (label : Text) : Nat × Nat × NoteList :=
  match l.numbers.lookup label with
  | some (number, earlier) =>
    let numbers := l.numbers.map fun e => if e.1 = label then (label, number, earlier + 1) else e
    (number, earlier, { l with numbers })
  | none =>
    let number := l.size
    let l := l.put number (.labelled label)
    (number, 0, { l with numbers := (label, number, 1) :: l.numbers })

/-- How often a label was referred to. -/
def references (l : NoteList) (label : Text) : Nat := ((l.numbers.lookup label).map Prod.snd).getD 0

/-- The notes in the order of their numbers. -/
def inOrder (l : NoteList) : List (Nat × NoteSource) := l.sources.mergeSort fun a b => a.1 ≤ b.1

end NoteList

end Literate.Markdown

import Literate.Exclusion.Basic

/-!
# The deck

The markdown of each slide, taken from the lines kept for the slides.  The marker line of a break
slide is left out, and a break slide with a title starts with that title as a heading.
-/

namespace Literate

open Text

namespace Deck

/-- Drops the empty lines at both ends. -/
def trimEmpty (ls : List Line) : List Line :=
  dropEndWhile List.isEmpty (ls.dropWhile List.isEmpty)

/-- The kept lines of a slide, less the marker line of a break. -/
def slideLines (kept : List Entry) (s : Slide) (span : Span) : List Line :=
  (kept.filter fun e =>
    span.first ≤ e.number && e.number ≤ span.last && !(s.kind = .break && e.number == s.startLine)).map
    Entry.text

/-- The heading that repeats a title. -/
def titleLine (title : Text) : Line := '#' :: ' ' :: title

/-- The markdown of one slide.  Model of the loop body of `slides.slide_markdown`. -/
def slideSource (kept : List Entry) (s : Slide) (span : Span) : Text :=
  let body := slideLines kept s span
  let ls := if s.kind = .break && !s.title.isEmpty then titleLine s.title :: body else body
  join ['\n'] (trimEmpty ls) ++ ['\n']

/-- The markdown of every slide. -/
def sourcesOf (o : Outline) (kept : List Entry) : List Text :=
  (o.slides.zip o.slideSpans).map fun (s, span) => slideSource kept s span

/-- The markdown of every slide of a document.  Model of `slides.slide_markdown`. -/
def sources (t : Text) : Except ParseError (List Text) :=
  match Outline.parse t with
  | .error e => .error e
  | .ok o => .ok (sourcesOf o (Exclusion.keptLines o .slides (lines t)))

end Deck

end Literate

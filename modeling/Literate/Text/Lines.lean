import Literate.Text.Basic

/-!
# Lines

A line ends at a newline and nowhere else: form feeds and the separators of other alphabets stay
inside their line.  `withEnds` cuts a text into lines that keep their terminator, `lines` drops the
newline and one carriage return before it, so both count alike by definition.  `plainEnds` writes
every line end of any kind as a newline.
-/

namespace Literate.Text

/-- The lines of a text, each with its newline; only the last one may lack it.  Model of
`structure.split_lines_keepends`. -/
def withEnds : Text → List Text
  | [] => []
  | c :: r =>
    if c = '\n' then ['\n'] :: withEnds r
    else
      match withEnds r with
      | [] => [[c]]
      | l :: ls => (c :: l) :: ls

/-- Drops one `c` at the end. -/
def dropLast? (c : Char) : Text → Text
  | [] => []
  | d :: [] => if d = c then [] else [d]
  | d :: e :: r => d :: dropLast? c (e :: r)

/-- A line without its newline and without one carriage return before it. -/
def content (l : Text) : Line := dropLast? '\r' (dropLast? '\n' l)

/-- The lines of a text without terminators.  Model of `structure.split_lines`. -/
def lines (t : Text) : List Line := (withEnds t).map content

/-- A carriage return, with the newline after it if there is one, becomes a newline. -/
def plainEnds : Text → Text
  | [] => []
  | '\r' :: '\n' :: r => '\n' :: plainEnds r
  | '\r' :: r => '\n' :: plainEnds r
  | c :: r => c :: plainEnds r

end Literate.Text

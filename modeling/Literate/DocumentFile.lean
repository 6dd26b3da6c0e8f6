import Literate.Failure
import Literate.Files.FileTree
import Literate.Text.Utf8

/-!
# Document files

A document file is read as text with every line end as a newline, and written as it stands.

* `documentText` is the text of a file.
* `record` puts the output of a block into a text.
* `recordInFile` does so from file content to file content.
-/

namespace Literate

open Text

/-- The text of a document file.  Model of the reading of the file in `cli._dispatch`. -/
def documentText (content : Bytes) : Except Utf8Error Text :=
  match Utf8.decode content with
  | .error e => .error e
  | .ok t => .ok (plainEnds t)

/-- A text in which output was recorded, and the edit that did it. -/
structure Recorded where
  edit : Edit
  text : Text
  deriving DecidableEq, Repr

/-- Records the output of a block in a text. -/
def record (t name : Text) (output : Output) : Except Failure Recorded :=
  match recordingEdit t name output with
  | .error e => .error (.ofRecording e)
  | .ok edit =>
    match edit.apply t with
    | .error e => .error (.range e)
    | .ok text => .ok ⟨edit, text⟩

/-- Records the output of a block in the content of a file.  Model of what the `run` command of
`cli._dispatch` does with the file, the run apart. -/
def recordInFile (content : Bytes) (name : Text) (output : Output) : Except Failure Bytes :=
  match documentText content with
  | .error e => .error (.encoding e)
  | .ok t =>
    match record t name output with
    | .error e => .error e
    | .ok r => .ok (Utf8.encode r.text)

end Literate

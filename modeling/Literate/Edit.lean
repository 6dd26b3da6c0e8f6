import Literate.Output

/-!
# Edits

An edit replaces the lines `startLine` to `endLine - 1` by new content; with equal ends it inserts
before `startLine`, and one past the last line addresses the end of the document.

* `Edit.apply` keeps every other line with its own terminator.
* `recordingEdit` is the edit that puts output below a block, or in place of the output already
  attached to it.
-/

namespace Literate

open Text

/-- A replacement of whole lines.  Model of `models.Edit`. -/
structure Edit where
  startLine : Int
  endLine : Int
  content : Text
  deriving DecidableEq, Repr

/-- An edit that does not fit a document of `lineCount` lines.  Model of `errors.InvalidRange`. -/
structure RangeError where
  startLine : Int
  endLine : Int
  lineCount : Nat
  deriving DecidableEq, Repr

/-- The error as shown. -/
def RangeError.message (e : RangeError) : String :=
  s!"Edit range [{e.startLine}, {e.endLine}) is outside a document of {e.lineCount} lines"

namespace Edit

/-- Adds a newline unless the text is empty or has one at its end. -/
def terminated (t : Text) : Text :=
  if t.isEmpty || t.getLast? == some '\n' then t else t ++ ['\n']

/-- Puts `content` between lines; whatever it is joined to ends its line first. -/
def splice (before : List Text) (content : Text) (after : List Text) : Text :=
  terminated before.flatten ++ (if after.isEmpty then content else terminated content)
    ++ after.flatten

/-- The document with the edit applied.  Model of `splicer.apply_edit`. -/
def apply (t : Text) (e : Edit) : Except RangeError Text :=
  let ls := withEnds t
  if 1 ≤ e.startLine ∧ e.startLine ≤ e.endLine ∧ e.endLine ≤ ls.length + 1 then
    .ok (splice (ls.take (e.startLine.toNat - 1)) e.content (ls.drop (e.endLine.toNat - 1)))
  else .error ⟨e.startLine, e.endLine, ls.length⟩

end Edit

/-- Why output cannot be recorded. -/
inductive RecordingError
  | parse (e : ParseError)
  | blockNotFound (name : Text)
  deriving DecidableEq, Repr

/-- The edit that records output below the block, in a document with this outline and these lines. -/
def Outline.recordingEdit (o : Outline) (ls : List Line) (b : Block) (output : Output) : Edit :=
  match o.attachedOutput? ls b with
  | some r => ⟨r.startLine, r.endLine + 1, output.region⟩
  | none => ⟨b.endLine + 1, b.endLine + 1, '\n' :: output.region⟩

/-- The edit that records output of the first block of a name.  Model of `splicer.format_output`. -/
def recordingEdit (t name : Text) (output : Output) : Except RecordingError Edit :=
  match Outline.parse t with
  | .error e => .error (.parse e)
  | .ok o =>
    match o.findBlock? name with
    | none => .error (.blockNotFound name)
    | some b => .ok (o.recordingEdit (lines t) b output)

end Literate

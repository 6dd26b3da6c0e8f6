import Literate.Edit
import Literate.Html.Event
import Literate.Json
import Literate.Language.Registry
import Literate.Pdf.Error
import Literate.Run.Error
import Literate.Tangle

/-!
# Failures

Everything that can go wrong, in one type.  The first eight kinds are expected: they are reported
with their fields.  The others are faults of the surroundings and end the program.

* `Failure.message` is what is shown, `Failure.members` what is written for machines.
-/

namespace Literate

open Text

/-- Something that went wrong.  Model of the classes of `errors` and of what else `cli.main` can let
through. -/
inductive Failure
  | parse (e : ParseError)
  | blockNotFound (name : Text)
  | expansion (e : ExpansionError)
  | execution (e : ExecutionError)
  | configuration (e : ConfigurationError)
  | range (e : RangeError)
  | export (e : ExportError)
  | tangle (report : TangleReport)
  | file (e : OsError)
  | encoding (e : Utf8Error)
  | path (e : PathError)
  | words (e : WordsError)
  | markup (e : Html.MarkupError)
  /-- An integer that is no double. -/
  | numberTooLarge
  | numeral (e : NumeralError)
  /-- A timeout that cannot be waited for. -/
  | timeoutNotWaitable (seconds : Double)
  /-- A failure of a browser that is no failed export. -/
  | browser (e : BrowserError)
  deriving DecidableEq, Repr

namespace Failure

/-- The name of the kind as written in answers; faults of the surroundings have none. -/
def kind? : Failure → Option String
  | parse _ => some "ParseError"
  | blockNotFound _ => some "BlockNotFound"
  | expansion _ => some "ExpansionError"
  | execution e => some e.kind
  | configuration _ => some "ConfigurationError"
  | range _ => some "InvalidRange"
  | .export _ => some "ExportError"
  | tangle _ => some "TangleWriteError"
  | _ => none

/-- Why a number of seconds cannot be waited for. -/
def waitMessage : Double → String
  | .nan => "cannot convert float NaN to integer"
  | .infinite _ => "cannot convert float infinity to integer"
  | .finite _ m q =>
    let (num, den) := Double.ratio m q
    if 9223372036854 * den < 1000 * num then "timestamp too large to convert to C _PyTime_t"
    else "timeout is too large"

/-- What is shown. -/
def message : Failure → String
  | parse e => e.message
  | blockNotFound name => "Block not found: " ++ name.toStr
  | expansion e => e.message
  | execution e => e.message
  | configuration e => e.message
  | range e => e.message
  | .export e => e.message
  | tangle report => report.failureMessage
  | file e => e.message
  | encoding e => e.message
  | path e => e.message
  | words e => e.message
  | markup e => e.message
  | numberTooLarge => "int too large to convert to float"
  | numeral e => e.message
  | timeoutNotWaitable seconds => waitMessage seconds
  | browser e => e.text.toStr

/-- One target of a tangle report.  Model of `models.TangleFileStatus.to_dict`. -/
def statusJson (s : TangleStatus) : Json :=
  .obj [("target", .text s.target),
    ("path", Json.option (fun l => .text l.toText) s.location?),
    ("blocks", .arr (s.blocks.map .text)), ("ok", .bool s.ok),
    ("error", Json.option (fun e => .str e.message) s.error?)]

/-- The fields of a failure besides its kind and message. -/
def fields : Failure → List (String × Json)
  | parse e => [("line", .nat e.line)]
  | blockNotFound name => [("block", .text name)]
  | expansion e => [("block", .text e.name), ("chain", .arr (e.chain.map .text))]
  | execution e => [("reason", .str e.reason), ("block", .text e.block)]
  | range e =>
    [("start_line", .int e.startLine), ("end_line", .int e.endLine), ("line_count", .nat e.lineCount)]
  | .export e => [("path", .text e.path.toText)]
  | tangle report => [("files", .arr (report.files.map statusJson))]
  | _ => []

/-- The members of a failure under the name of its kind.  Model of `errors.LitdocError.to_dict` and
of its overrides. -/
def members (kind : String) (f : Failure) : List (String × Json) :=
  ("error", .str kind) :: ("message", .str f.message) :: f.fields

/-- A recording that failed. -/
def ofRecording : RecordingError → Failure
  | .parse e => .parse e
  | .blockNotFound name => .blockNotFound name

/-- An expansion that failed. -/
def ofExpand : ExpandError → Failure
  | .parse e => .parse e
  | .blockNotFound name => .blockNotFound name
  | .expansion e => .expansion e

/-- Settings that cannot be had. -/
def ofSettings : SettingsError → Failure
  | .configuration e => .configuration e
  | .numberTooLarge => .numberTooLarge
  | .numeral e => .numeral e
  | .encoding e => .encoding e
  | .file e => .file e
  | .path e => .path e

/-- A registry that cannot be built. -/
def ofRegistry : RegistryError → Failure
  | .configuration e => .configuration e
  | .words e => .words e

end Failure

end Literate

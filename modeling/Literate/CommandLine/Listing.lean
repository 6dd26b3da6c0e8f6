import Literate.Failure
import Literate.Json
import Literate.Tangle

/-!
# Listings

How answers of the command line are written: as rows for readers, as JSON for machines.  The rows are
those of `cli._dispatch`.

* `Block.row`, `Slide.row`, `TangleStatus.row` are the rows.
* `Block.toJson`, `Slide.toJson`, `RunResult.toJson`, `Edit.toJson`, `TangleReport.toJson` are the
  values.
-/

namespace Literate

open Text

/-- A text with spaces after it, up to a width. -/
def Text.padEnd (width : Nat) (t : Text) : Text := t ++ List.replicate (width - t.length) ' '

/-- A text with spaces before it, up to a width. -/
def Text.padStart (width : Nat) (t : Text) : Text := List.replicate (width - t.length) ' ' ++ t

namespace Block

/-- The row of a block: name, lines, language, where it is written, and whether it is excluded. -/
def row (b : Block) : Text :=
  padEnd 20 b.name ++ ' ' :: padStart 5 (numeral b.startLine) ++ '-' :: padEnd 5 (numeral b.endLine) ++
    ' ' :: padEnd 12 (if b.info.language.isEmpty then ['-'] else b.info.language) ++
    (match b.info.target with
      | some (c :: t) => " -> ".toList ++ c :: t
      | _ => []) ++
    if b.info.hiddenInDoc then " (excluded)".toList else []

/-- The members of a block.  Model of `models.Block.to_dict`. -/
def toJson (b : Block) : Json :=
  .obj [("name", .text b.name), ("start_line", .nat b.startLine), ("end_line", .nat b.endLine),
    ("language", .text b.info.language), ("body", .text b.source), ("fence", .text b.fence),
    ("excluded", .bool b.info.hiddenInDoc), ("excluded_from_slides", .bool b.info.hiddenInSlides),
    ("tangle_target", Json.option .text b.info.target), ("imports", .arr (b.info.imports.map .text)),
    ("args", .obj ((argMap b.info.args).map fun (k, v) => (k.toStr, .text v))),
    ("tag", .text b.name)]

end Block

namespace Slide

/-- The row of a slide: line, kind and title. -/
def row (s : Slide) : Text :=
  padStart 5 (numeral s.startLine) ++ ' ' :: ' ' :: padEnd 8 s.kind.label.toList ++ ' ' :: s.title

/-- The members of a slide.  Model of `models.Slide.to_dict`. -/
def toJson (s : Slide) : Json :=
  .obj [("start_line", .nat s.startLine), ("tag", .text s.title), ("kind", .str s.kind.label)]

end Slide

/-- The members of a result.  Model of `models.ExecutionResult.to_dict`. -/
def RunResult.toJson (r : RunResult) : Json :=
  .obj [("stdout", .text r.stdout), ("stderr", .text r.stderr), ("status", .int r.status)]

/-- The members of an edit.  Model of `models.Edit.to_dict`. -/
def Edit.toJson (e : Edit) : Json :=
  .obj [("start_line", .int e.startLine), ("end_line", .int e.endLine), ("content", .text e.content)]

/-- The row of a target: what became of it, its name, and why it failed. -/
def TangleStatus.row (s : TangleStatus) : Text :=
  padEnd 7 (if s.ok then "ok".toList else "FAILED".toList) ++ ' ' :: s.target ++
    match s.error? with
    | none => []
    | some e => ": ".toList ++ e.message.toList

/-- The members of a report.  Model of `models.TangleReport.to_dict`. -/
def TangleReport.toJson (r : TangleReport) : Json :=
  .obj [("file_count", .nat r.fileCount), ("files", .arr (r.files.map Failure.statusJson))]

end Literate

import Literate.Files.FileTree
import Literate.Pdf.Browser

/-!
# Why a page is not printed
-/

namespace Literate

open Text

/-- Why a page is not printed to a file. -/
inductive ExportCause
  /-- The browser failed at a step. -/
  | browser (step : BrowserStep) (e : BrowserError)
  /-- A file operation failed. -/
  | file (e : OsError)
  /-- The browser was done and there is no file. -/
  | noFile
  deriving DecidableEq, Repr

/-- A page that is not printed to `path`.  Model of `errors.ExportError`. -/
structure ExportError where
  path : FilePath
  cause : ExportCause
  deriving DecidableEq, Repr

/-- The cause as shown. -/
def ExportCause.message : ExportCause → String
  | browser _ e => e.shown.toStr
  | file e => e.message
  | noFile => "browser produced no file"

/-- The error as shown. -/
def ExportError.message (e : ExportError) : String :=
  e.path.toText.toStr ++ ": " ++ e.cause.message

end Literate

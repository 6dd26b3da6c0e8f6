import Literate.Text.Basic
import Literate.Text.Utf8

/-!
# Browsers

A browser prints a page to a file.  It is started, opens a page, is shown a document, is told to print
and is closed.  What it does is not known before: each of these steps may fail, and it may say that it
printed when it wrote nothing.

Models the browser that `pdf._print_pdf` works with (`launch`, `newPage`, `setContent`, `pdf`, `close`).

* `Browser` says what a browser does.
* `BrowserError.isExport` says which of its failures are reported as failed exports.
* `Visit` is what it was asked for.
-/

namespace Literate

/-- What a failure is, as far as printing tells failures apart. -/
inductive FailureFamily
  /-- The browser reports it. -/
  | browser
  /-- A file, a process or a connection failed. -/
  | system
  /-- A wait took too long. -/
  | timeout
  /-- Anything else. -/
  | other
  deriving DecidableEq, Repr

/-- A failure of a browser: what it is, its kind, and what is said about it. -/
structure BrowserError where
  family : FailureFamily
  kind : String
  text : Text
  deriving DecidableEq, Repr

/-- Whether a failure is reported as a failed export.  These are the classes that `pdf.html_to_pdf`
catches; every other failure ends the program. -/
def BrowserError.isExport (e : BrowserError) : Bool :=
  match e.family with
  | .browser | .system | .timeout => true
  | .other => false

/-- The failure as shown: its kind if nothing is said about it. -/
def BrowserError.shown (e : BrowserError) : Text := if e.text.isEmpty then e.kind.toList else e.text

/-- What a browser is asked for, one after the other. -/
inductive BrowserStep
  | start
  | openPage
  | showPage
  | print
  | close
  deriving DecidableEq, Repr

/-- What a browser does. -/
structure Browser where
  /-- Whether it fails at a step, and how. -/
  failure? : BrowserStep → Option BrowserError
  /-- What it writes to the file when it is told to print, be it that it fails afterwards. -/
  written : Option Bytes

namespace Browser

/-- A browser that says that it printed, and did not. -/
def printsNothing : Browser := ⟨fun _ => none, none⟩

/-- A browser that fails at one step and writes nothing. -/
def failsAt (step : BrowserStep) (e : BrowserError) : Browser :=
  ⟨fun s => if s = step then some e else none, none⟩

/-- A browser that does not start. -/
def failsToStart (e : BrowserError) : Browser := failsAt .start e

end Browser

/-- The paper a page is printed on. -/
inductive Paper
  | a4
  | sized (width height : String)
  deriving DecidableEq, Repr

/-- The empty edges of a printed page. -/
structure Margins where
  top : String
  right : String
  bottom : String
  left : String
  deriving DecidableEq, Repr

/-- How a page is printed. -/
structure PrintOptions where
  paper : Paper
  margins : Margins
  background : Bool
  deriving DecidableEq, Repr

namespace PrintOptions

/-- A document is printed on paper.  Model of `pdf.DOCUMENT_PDF_OPTIONS`. -/
def document : PrintOptions := ⟨.a4, ⟨"16mm", "14mm", "16mm", "14mm"⟩, true⟩

/-- A deck is printed one slide a page.  Model of `pdf.DECK_PDF_OPTIONS`. -/
def deck : PrintOptions := ⟨.sized "960px" "540px", ⟨"0", "0", "0", "0"⟩, true⟩

end PrintOptions

/-- What a browser was asked for.  Model of the calls that `pdf._print_pdf` makes. -/
structure Visit where
  /-- Whether a browser was started. -/
  started : Bool
  /-- Whether it was closed again. -/
  closed : Bool
  /-- The page it was shown. -/
  page : Option Text
  /-- The path and the options it was told to print with. -/
  printing : Option (Text × PrintOptions)
  deriving DecidableEq, Repr

/-- No browser was started. -/
def Visit.none : Visit := ⟨false, false, .none, .none⟩

end Literate

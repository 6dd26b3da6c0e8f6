import Literate.Page.Renderer

/-!
# Printing

Prints pages to files.  The directory of the file is made first; then a browser is started, shown the
page, told to print, and closed whatever happens.  In the end the file has to be there.  Failures of
the browser that are expected are reported as failed exports; the others end the program.

* `Pdf.visit` is what comes of a browser.
* `Pdf.printing` is what comes of the browser and the files.
* `Pdf.print` prints a page; `Pdf.saveDocument` and `Pdf.saveDeck` render it first.
-/

namespace Literate.Pdf

open Text

/-- What ends a printing before a file is there. -/
inductive Fault
  /-- A cause that is reported as a failed export. -/
  | export (cause : ExportCause)
  /-- A failure of the browser that is not expected. -/
  | browser (e : BrowserError)
  /-- The file cannot be asked for. -/
  | file (e : OsError)
  | path (e : PathError)
  deriving DecidableEq, Repr

/-- The fault of printing to a path, as a failure. -/
def Fault.toFailure (p : FilePath) : Fault → Failure
  | .export cause => .export ⟨p, cause⟩
  | .browser e => .browser e
  | .file e => .file e
  | .path e => .path e

/-- What comes of printing: the tree, what the browser was asked for, and what went wrong. -/
structure Printing where
  tree : FileTree
  visit : Visit
  fault : Option Fault

/-- The fault of a browser that fails at a step: only what is expected is a failed export.  Model of
the `except` clause of `pdf.html_to_pdf`. -/
def Fault.ofBrowser (step : BrowserStep) (e : BrowserError) : Fault :=
  if e.isExport then .export (.browser step e) else .browser e

/-- The fault of a browser at a step, if it fails there. -/
def faultAt (b : Browser) (step : BrowserStep) : Option Fault :=
  (b.failure? step).map (Fault.ofBrowser step)

/-- Tells a browser to print to a path: what it writes comes before it fails. -/
def tell (b : Browser) (cwd : Location) (p : FilePath) (tree : FileTree) : FileTree × Option Fault :=
  match b.written with
  | none => (tree, faultAt b .print)
  | some content =>
    if p.hasNull then (tree, some (.path .nullCharacter))
    else
      match tree.write cwd p content with
      | .ok tree => (tree, faultAt b .print)
      | .error e => (tree, some (.export (.file e)))

/-- Opens a page in a browser that was started, shows it the document and tells it to print. -/
def present (b : Browser) (html : Text) (options : PrintOptions) (cwd : Location) (p : FilePath)
    (tree : FileTree) : Printing :=
  let seen : Visit := { Visit.none with started := true }
  match faultAt b .openPage with
  | some f => ⟨tree, seen, some f⟩
  | none =>
    let seen := { seen with page := some html }
    match faultAt b .showPage with
    | some f => ⟨tree, seen, some f⟩
    | none =>
      let seen := { seen with printing := some (p.toText, options) }
      match tell b cwd p tree with
      | (tree, fault) => ⟨tree, seen, fault⟩

/-- Starts a browser, shows it a page, has it print, and closes it whatever happened.  A failure to
close takes the place of what went wrong before.  Model of `pdf._print_pdf`. -/
def visit (b : Browser) (html : Text) (options : PrintOptions) (cwd : Location) (p : FilePath)
    (tree : FileTree) : Printing :=
  match faultAt b .start with
  | some f => ⟨tree, .none, some f⟩
  | none =>
    let shown := present b html options cwd p tree
    ⟨shown.tree, { shown.visit with closed := true }, (faultAt b .close).or shown.fault⟩

/-- What is wrong with the file when the browser is done.  No file has a name with a null
character.  Model of the check after printing in `pdf.html_to_pdf`. -/
def missing (cwd : Location) (p : FilePath) (tree : FileTree) : Option Fault :=
  if p.hasNull then some (.export .noFile)
  else
    match tree.isFile cwd p with
    | .ok true => none
    | .ok false => some (.export .noFile)
    | .error e => some (.file e)

/-- Prints a page to a file.  Model of `pdf.html_to_pdf` on a path with its home directory. -/
def printing (b : Browser) (html : Text) (options : PrintOptions) (cwd : Location) (p : FilePath)
    (tree : FileTree) : Printing :=
  if p.parent.hasNull then ⟨tree, .none, some (.path .nullCharacter)⟩
  else
    match tree.makeDirs cwd p.parent with
    | (tree, some e) => ⟨tree, .none, some (.export (.file e))⟩
    | (tree, none) =>
      let visited := visit b html options cwd p tree
      { visited with fault := visited.fault.or (missing cwd p visited.tree) }

/-- Prints a page to a file: what is said when it is done.  Model of `pdf.html_to_pdf`. -/
def print (b : Browser) (r : Renderer) (html : Text) (options : PrintOptions) (output : FilePath) :
    Action Text := do
  let p ← Action.ofExcept .path (output.expandUser r.homes)
  let result := printing b html options r.cwd p (← Action.tree)
  modify fun w => { w with tree := result.tree, visit := result.visit }
  match result.fault with
  | some f => throw (f.toFailure p)
  | none =>
    Action.log .info ("PDF written to " ++ p.toText.toStr)
    pure ("PDF saved to ".toList ++ p.toText)

/-- Renders a document and prints it.  Model of `pdf.save_pdf`. -/
def saveDocument (b : Browser) (r : Renderer) (t : Text) (output : FilePath) : Action Text := do
  print b r (← r.document t) .document output

/-- Renders the deck of a document and prints it, one slide a page.  Model of
`pdf.save_slides_pdf`. -/
def saveDeck (b : Browser) (r : Renderer) (t : Text) (output : FilePath) : Action Text := do
  print b r (← r.deck t) .deck output

end Literate.Pdf

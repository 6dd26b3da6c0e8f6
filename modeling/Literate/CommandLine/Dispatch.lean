import Literate.CommandLine.Invocation
import Literate.CommandLine.Listing
import Literate.DocumentFile
import Literate.Pdf.Print
import Literate.Run.Execute

/-!
# Carrying out invocations

A command reads the settings and its document, does its work, and answers on standard output.  An
expected failure is an answer too, with exit status one; a document that cannot be read is only
logged.

* `Invocation.carryOut` does what an invocation asks for and gives the exit status.
* `start` begins with the arguments.
-/

namespace Literate.CommandLine

open Text

/-- What the program works with. -/
structure Workbench where
  machine : Run.Machine
  browser : Browser
  sheets : SheetSource
  languages : Registry
  around : Surroundings

/-- Answers with JSON or with a text; an empty text is not written.  Model of `cli._emit`. -/
def answer (json : Bool) (data : Json) (t : Text) : Action Unit :=
  if json then Action.print (data.pretty.toList ++ ['\n'])
  else if t.isEmpty then pure ()
  else Action.print (t ++ ['\n'])

/-- Lines in one text. -/
def rows (ls : List Text) : Text := join ['\n'] ls

/-- Drops the newlines at the end. -/
def withoutNewlines (t : Text) : Text := dropEndWhile (· == '\n') t

/-- A document that is worked on. -/
structure OpenDocument where
  path : FilePath
  text : Text
  /-- The directory of the file. -/
  directory : Location

namespace Workbench

/-- Opens a document; one that cannot be read is logged. -/
def open? (x : Workbench) (p : FilePath) : Action (Option OpenDocument) := do
  if p.hasNull then throw (.path .nullCharacter)
  match (← Action.tree).read x.around.cwd p with
  | .error e => do
    Action.log .error ("Cannot read " ++ p.toText.toStr ++ ": " ++ e.cause.text)
    pure none
  | .ok content => do
    let text ← Action.ofExcept .encoding (documentText content)
    pure (some ⟨p, text, (p.resolve x.around.cwd).dropLast⟩)

/-- Works on a document; the exit status is one when it cannot be read. -/
def withDocument (x : Workbench) (p : FilePath) (work : OpenDocument → Action Nat) : Action Nat := do
  match ← x.open? p with
  | none => pure 1
  | some d => work d

/-- Runs a block of a document with the languages of the settings.  Model of the executor that
`cli._dispatch` makes, with `languages.registry_from_settings`. -/
def execute (x : Workbench) (settings : Settings) (d : OpenDocument) (block : Text)
    (timeout : Option Double) : Action RunResult := do
  let registry ← Action.ofExcept .ofRegistry (x.languages.configureAll settings.languages)
  let executor : Run.Executor := ⟨x.machine, settings, registry, x.around⟩
  executor.execute d.text ⟨block, timeout, .impossible, some (Location.toText d.directory)⟩

/-- The renderer of a document for the themes chosen; an empty name is no choice. -/
def renderer (x : Workbench) (settings : Settings) (d : OpenDocument) (themes : ThemeChoice) :
    Action Renderer :=
  let chosen (choice : Option Text) (default : Text) : Text :=
    match choice with
    | none => default
    | some [] => default
    | some name => name
  Action.ofExcept .configuration
    (Renderer.make x.sheets x.around (.ofLocation d.directory) (chosen themes.theme settings.theme)
      (chosen themes.codeTheme settings.codeTheme))

/-- Writes a page to a file, or prints it.  Model of `cli._write_or_print`. -/
def deliver (x : Workbench) (json : Bool) (output : Option FilePath) (page : Text) : Action Unit := do
  match output with
  | none => Action.print (page ++ ['\n'])
  | some p => do
    if p.hasNull then throw (.path .nullCharacter)
    Action.change .file fun tree => tree.writeBelow x.around.cwd p (Utf8.encode page)
    answer json (.obj [("path", .text p.toText)]) ("Written to ".toList ++ p.toText)

/-! ## Commands

Each is one branch of `cli._dispatch`. -/

/-- Lists the blocks of a document. -/
def blocks (json : Bool) (d : OpenDocument) : Action Nat := do
  let o ← Action.outline d.text
  answer json (.arr (o.blocks.map Block.toJson)) (rows (o.blocks.map Block.row))
  pure 0

/-- Lists the slides of a document. -/
def slides (json : Bool) (d : OpenDocument) : Action Nat := do
  let o ← Action.outline d.text
  answer json (.arr (o.slides.map Slide.toJson)) (rows (o.slides.map Slide.row))
  pure 0

/-- Prints a document without what is excluded. -/
def excluded (json : Bool) (target : Target) (d : OpenDocument) : Action Nat := do
  let _ ← Action.outline d.text
  let kept ← Action.ofExcept .parse (exclude d.text target)
  answer json (.obj [("text", .text kept)]) (withoutNewlines kept)
  pure 0

/-- Runs a block and prints its output. -/
def executed (json : Bool) (r : RunResult) : Action Nat := do
  Action.printError r.stderr
  answer json r.toJson (withoutNewlines r.stdout)
  pure 0

/-- Records a result in the file of a document. -/
def recorded (x : Workbench) (json : Bool) (d : OpenDocument) (block : Text) (r : RunResult) :
    Action Nat := do
  let new ← Action.ofExcept id (record d.text block (.result r))
  Action.update .file fun tree => tree.write x.around.cwd d.path (Utf8.encode new.text)
  answer json (.obj [("result", r.toJson), ("edit", new.edit.toJson)])
    ("Block '".toList ++ block ++ "' exited with status ".toList ++ signedNumeral r.status ++
      "; output recorded in ".toList ++ d.path.toText)
  pure 0

/-- Writes the exports of a document; the exit status is one when a target fails. -/
def tangled (x : Workbench) (json : Bool) (output : Option FilePath) (d : OpenDocument) :
    Action Nat := do
  let o ← Action.outline d.text
  let root :=
    match output with
    | some p => p.resolve x.around.cwd
    | none => d.directory
  let (tree, report) := Tangle.run o root (← Action.tree)
  Action.setTree tree
  Action.record report.log
  answer json report.toJson
    (if report.files.isEmpty then "Nothing to tangle".toList
    else rows (report.files.map TangleStatus.row))
  pure (if report.failed.isEmpty then 0 else 1)

/-- Prints the expanded source of a block. -/
def expanded (json : Bool) (block : Text) (d : OpenDocument) : Action Nat := do
  let _ ← Action.outline d.text
  let source ← Action.ofExcept .ofExpand (expandBlock d.text block)
  answer json (.obj [("block", .text block), ("source", .text source)]) source
  pure 0

/-- Names the themes. -/
def themes (json : Bool) : Action Nat := do
  let pages := ConfigurationError.pageThemes
  let codes := ConfigurationError.codeThemes
  answer json (.obj [("themes", .arr (pages.map .str)), ("code_themes", .arr (codes.map .str))])
    ("Themes: " ++ ", ".intercalate pages ++ "\nCode themes: " ++ ", ".intercalate codes).toList
  pure 0

/-- Does what a command says.  Model of `cli._dispatch`. -/
def carryOut (x : Workbench) (json : Bool) (c : Command) : Action Nat := do
  let settings ← Action.ofExcept .ofSettings (Settings.load x.around (← Action.tree))
  match c with
  | .themes => themes json
  | .blocks p => x.withDocument p (blocks json)
  | .slides p => x.withDocument p (slides json)
  | .exclude p target => x.withDocument p (excluded json target)
  | .execute p block timeout =>
    x.withDocument p fun d => do executed json (← x.execute settings d block timeout)
  | .run p block timeout =>
    x.withDocument p fun d => do x.recorded json d block (← x.execute settings d block timeout)
  | .tangle p output => x.withDocument p (x.tangled json output)
  | .expand p block => x.withDocument p (expanded json block)
  | .html p output choice =>
    x.withDocument p fun d => do
      let r ← x.renderer settings d choice
      x.deliver json output (← r.document d.text)
      pure 0
  | .deck p output choice =>
    x.withDocument p fun d => do
      let r ← x.renderer settings d choice
      x.deliver json output (← r.deck d.text)
      pure 0
  | .pdf p output choice =>
    x.withDocument p fun d => do
      let r ← x.renderer settings d choice
      let message ← Pdf.saveDocument x.browser r d.text output
      answer json (.obj [("path", .text output.toText)]) message
      pure 0
  | .deckPdf p output choice =>
    x.withDocument p fun d => do
      let r ← x.renderer settings d choice
      let message ← Pdf.saveDeck x.browser r d.text output
      answer json (.obj [("path", .text output.toText)]) message
      pure 0

end Workbench

namespace Invocation

/-- Reports a failure: as JSON on standard output, or in the log. -/
def report (json : Bool) (kind : String) (e : Failure) : Action Nat := do
  if json then Action.print ((Json.obj (e.members kind)).pretty.toList ++ ['\n'])
  else Action.log .error e.message
  pure 1

/-- Does what an invocation asks for; expected failures are reported, unless all are to be seen.
Model of the `try` statement of `cli.main`. -/
def carryOut (x : Workbench) (i : Invocation) : Action Nat :=
  tryCatch (x.carryOut i.json i.command) fun e =>
    match e.kind? with
    | none => throw e
    | some kind => if i.debug then throw e else report i.json kind e

end Invocation

/-- The exit status for arguments that start no command. -/
def Refusal.status : Refusal → Nat
  | .help => 0
  | .misuse => 2

/-- How the program ended. -/
inductive Outcome
  /-- The arguments start no command. -/
  | refused (r : Refusal)
  | failed (e : Failure)
  | exited (status : Nat)

/-- Starts the program with some arguments in a world: how it ends, and the world afterwards.  Model
of `cli.main`. -/
def start (x : Workbench) (arguments : List Text) (w : World) : Outcome × World :=
  match Invocation.ofArguments arguments with
  | .error r => (.refused r, w)
  | .ok i =>
    match (i.carryOut x).perform w with
    | (.error e, w) => (.failed e, w)
    | (.ok status, w) => (.exited status, w)

end Literate.CommandLine

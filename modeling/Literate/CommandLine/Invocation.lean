import Literate.CommandLine.Argument
import Literate.Files.Path
import Literate.Marker

/-!
# Invocations

What the arguments of the program ask for: a command with its own arguments, after options that hold
for every command.

* `Verb` names the commands; `Verb.switches` are the options each one knows.
* `Command` is a command with what it works on.
* `Invocation.ofArguments` reads all arguments.
-/

namespace Literate.CommandLine

open Text

/-- The name of a command.  Model of the subparsers of `cli._build_parser`. -/
inductive Verb
  | blocks
  | slides
  | exclude
  | execute
  | run
  | tangle
  | expand
  | html
  | deck
  | pdf
  | deckPdf
  | themes
  deriving DecidableEq, Repr

namespace Verb

/-- All commands. -/
def all : List Verb :=
  [blocks, slides, exclude, execute, run, tangle, expand, html, deck, pdf, deckPdf, themes]

/-- The word that names a command. -/
def word : Verb → Text
  | blocks => "blocks".toList
  | slides => "slides".toList
  | exclude => "exclude".toList
  | execute => "execute".toList
  | run => "run".toList
  | tangle => "tangle".toList
  | expand => "expand".toList
  | html => "html".toList
  | deck => "deck".toList
  | pdf => "pdf".toList
  | deckPdf => "deck-pdf".toList
  | themes => "themes".toList

/-- The command a word names. -/
def ofWord? (t : Text) : Option Verb := all.find? (·.word = t)

/-- The options a command knows. -/
def switches : Verb → List Switch
  | exclude => [.help, .slides]
  | execute => [.help, .timeout]
  | run => [.help, .timeout]
  | tangle => [.help, .output]
  | html => [.help, .output, .theme, .codeTheme]
  | deck => [.help, .output, .theme, .codeTheme]
  | pdf => [.help, .output, .theme, .codeTheme]
  | deckPdf => [.help, .output, .theme, .codeTheme]
  | _ => [.help]

/-- The number of plain arguments of a command: a document, and for some a block. -/
def plainCount : Verb → Nat
  | themes => 0
  | execute => 2
  | run => 2
  | expand => 2
  | _ => 1

end Verb

/-- The themes a command was given; the settings say those it was not. -/
structure ThemeChoice where
  theme : Option Text
  codeTheme : Option Text
  deriving DecidableEq, Repr

/-- A command with what it works on. -/
inductive Command
  | blocks (document : FilePath)
  | slides (document : FilePath)
  | exclude (document : FilePath) (target : Target)
  | execute (document : FilePath) (block : Text) (timeout : Option Double)
  | run (document : FilePath) (block : Text) (timeout : Option Double)
  | tangle (document : FilePath) (output : Option FilePath)
  | expand (document : FilePath) (block : Text)
  | html (document : FilePath) (output : Option FilePath) (themes : ThemeChoice)
  | deck (document : FilePath) (output : Option FilePath) (themes : ThemeChoice)
  | pdf (document output : FilePath) (themes : ThemeChoice)
  | deckPdf (document output : FilePath) (themes : ThemeChoice)
  | themes
  deriving DecidableEq, Repr

namespace Command

/-- The command that was asked for, if the plain arguments are right. -/
def ofGiven? (v : Verb) (gs : List Given) : Option Command :=
  let output := (Given.value? .output gs).map FilePath.ofText
  let timeout := (Given.value? .timeout gs).bind Double.ofText?
  let themes : ThemeChoice := ⟨Given.value? .theme gs, Given.value? .codeTheme gs⟩
  match v, Given.plain? v.plainCount gs with
  | .blocks, some [d] => some (.blocks (.ofText d))
  | .slides, some [d] => some (.slides (.ofText d))
  | .exclude, some [d] => some (.exclude (.ofText d) (if Given.has .slides gs then .slides else .doc))
  | .execute, some [d, b] => some (.execute (.ofText d) b timeout)
  | .run, some [d, b] => some (.run (.ofText d) b timeout)
  | .tangle, some [d] => some (.tangle (.ofText d) output)
  | .expand, some [d, b] => some (.expand (.ofText d) b)
  | .html, some [d] => some (.html (.ofText d) output themes)
  | .deck, some [d] => some (.deck (.ofText d) output themes)
  | .pdf, some [d] =>
    some (.pdf (.ofText d) (output.getD (.ofText "document.pdf".toList)) themes)
  | .deckPdf, some [d] =>
    some (.deckPdf (.ofText d) (output.getD (.ofText "slides.pdf".toList)) themes)
  | .themes, some [] => some .themes
  | _, _ => none

/-- Reads the arguments of a command. -/
def ofArguments (v : Verb) (ts : List Text) : Except Refusal Command :=
  match Argument.classifyAll? v.switches ts with
  | none => .error .misuse
  | some as =>
    match Given.ofArguments v.switches as with
    | .error e => .error e
    | .ok gs =>
      match ofGiven? v gs with
      | none => .error .misuse
      | some c => .ok c

end Command

/-- What the program is to do. -/
structure Invocation where
  /-- Expected failures end the program like any other. -/
  debug : Bool
  /-- Answers are written for machines. -/
  json : Bool
  command : Command
  deriving DecidableEq, Repr

namespace Invocation

/-- The options that stand before the command. -/
def switches : List Switch := [.help, .debug, .json]

/-- The arguments before the command and those from it on. -/
def divide : List Argument → List Text → List Argument × List Text
  | .plain _ :: _, ts => ([], ts)
  | a :: as, _ :: ts =>
    let (before, rest) := divide as ts
    (a :: before, rest)
  | _, _ => ([], [])

/-- Reads all arguments of the program.  Model of `cli._build_parser` with the call of `parse_args`
in `cli.main`. -/
def ofArguments (ts : List Text) : Except Refusal Invocation :=
  match Argument.classifyAll? switches ts with
  | none => .error .misuse
  | some as =>
    let (before, rest) := divide as ts
    match Given.ofArguments switches before with
    | .error e => .error e
    | .ok gs =>
      if gs.contains .separator then .error .misuse
      else
        match rest with
        | [] => .error .misuse
        | word :: ts =>
          match Verb.ofWord? word with
          | none => .error .misuse
          | some v =>
            match Command.ofArguments v ts with
            | .error e => .error e
            | .ok c =>
              if gs.contains .unknown then .error .misuse
              else .ok ⟨Given.has .debug gs, Given.has .json gs, c⟩

end Invocation

end Literate.CommandLine

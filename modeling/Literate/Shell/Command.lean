import Literate.Text.Basic

/-!
# Commands of the shell

The structure of shell scripts.  Scripts are bytes; a text of the shell holds one character below 256
for each byte.

* `WordPart` is a part of a word: text, or something that is replaced before a command runs.
* `Command` is a command with everything below it.
-/

namespace Literate.Shell

/-- A text whose characters stand for bytes. -/
abbrev Octets := Text

/-- What is done with a parameter before its value is used. -/
inductive ParamOp
  | value
  | length
  /-- Another word when there is no value; `orEmpty` says whether an empty value counts as none. -/
  | orElse (orEmpty : Bool)
  /-- Another word when there is no value, which becomes the value. -/
  | assign (orEmpty : Bool)
  /-- Another word when there is a value. -/
  | instead (orEmpty : Bool)
  /-- A failure when there is no value. -/
  | required (orEmpty : Bool)
  | trimStart (longest : Bool)
  | trimEnd (longest : Bool)
  deriving DecidableEq, Repr, Inhabited

/-- A part of a word.  Quoted parts are neither split nor matched against file names. -/
inductive WordPart
  | plain (t : Octets)
  | quoted (t : Octets)
  | parameter (inQuotes : Bool) (name : Octets) (op : ParamOp) (word : List WordPart)
  /-- The output of a script. -/
  | output (inQuotes : Bool) (script : Octets)
  | arithmetic (inQuotes : Bool) (expr : List WordPart)
  deriving Inhabited

/-- A word of a command. -/
abbrev Word := List WordPart

/-- How a file is opened. -/
inductive OpenMode
  | read
  | write
  | append
  deriving DecidableEq, Repr

/-- A redirection of the descriptor `fd`. -/
inductive Redirect
  | file (fd : Nat) (mode : OpenMode) (path : Word)
  /-- To what another descriptor stands for; a hyphen closes it. -/
  | duplicate (fd : Nat) (source : Word)
  | text (fd : Nat) (body : Word)
  /-- Both standard output and standard error to a file. -/
  | both (path : Word)
  deriving Inhabited

/-- A command. -/
inductive Command
  | simple (assignments : List (Octets × Word)) (words : List Word) (redirects : List Redirect)
  | pipeline (negated : Bool) (stages : List Command)
  | both (first second : Command)
  | either (first second : Command)
  | sequence (cs : List Command)
  | background (c : Command)
  | subshell (c : Command)
  | branch (condition yes : Command) (no : Option Command)
  | loop (untilTrue : Bool) (condition body : Command)
  | each (name : Octets) (words : Option (List Word)) (body : Command)
  | choose (word : Word) (cases : List (List Word × Command))
  | define (name : Octets) (body : Command)
  | calculate (expr : Word)
  | redirected (c : Command) (redirects : List Redirect)
  deriving Inhabited

end Literate.Shell

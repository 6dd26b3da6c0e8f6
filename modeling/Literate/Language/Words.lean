import Literate.Text.Basic

/-!
# Command words

A command line is cut into words as a shell does: blanks separate words, single quotes keep
everything, double quotes keep everything but a backslash before a quote or a backslash, and a
backslash keeps the next character.
-/

namespace Literate

open Text

/-- Why a command line has no words. -/
inductive WordsError
  | unclosedQuote
  | nothingEscaped
  deriving DecidableEq, Repr

/-- The error as shown. -/
def WordsError.message : WordsError → String
  | unclosedQuote => "No closing quotation"
  | nothingEscaped => "No escaped character"

namespace CommandWords

/-- The blanks between words. -/
def isSeparator (c : Char) : Bool := c = ' ' || c = '\t' || c = '\r' || c = '\n'

/-- Where the reader is: between words, in a word, or inside quotes. -/
inductive Mode
  | between
  | word
  | single
  | double
  /-- After a backslash; inside double quotes only quotes and backslashes lose it. -/
  | escaped (inDouble : Bool)
  deriving DecidableEq, Repr

/-- Reads the words; `word` holds the current word in reverse. -/
def read (mode : Mode) (word : Text) : Text → Except WordsError (List Text)
  | [] =>
    match mode with
    | .between => .ok []
    | .word => .ok [word.reverse]
    | .single => .error .unclosedQuote
    | .double => .error .unclosedQuote
    | .escaped _ => .error .nothingEscaped
  | c :: r =>
    match mode with
    | .between =>
      if isSeparator c then read .between [] r
      else if c = '\\' then read (.escaped false) [] r
      else if c = '\'' then read .single [] r
      else if c = '"' then read .double [] r
      else read .word [c] r
    | .word =>
      if isSeparator c then (read .between [] r).map (word.reverse :: ·)
      else if c = '\\' then read (.escaped false) word r
      else if c = '\'' then read .single word r
      else if c = '"' then read .double word r
      else read .word (c :: word) r
    | .single => if c = '\'' then read .word word r else read .single (c :: word) r
    | .double =>
      if c = '"' then read .word word r
      else if c = '\\' then read (.escaped true) word r
      else read .double (c :: word) r
    | .escaped true =>
      if c = '"' || c = '\\' then read .double (c :: word) r
      else read .double (c :: '\\' :: word) r
    | .escaped false => read .word (c :: word) r

end CommandWords

/-- The words of a command line.  Model of `shlex.split`, with which
`languages.LanguageRegistry.update_from_settings` reads a command. -/
def commandWords (t : Text) : Except WordsError (List Text) := CommandWords.read .between [] t

end Literate

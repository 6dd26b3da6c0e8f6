import Literate.Text.Digit
import Literate.Text.Quoted

/-!
# Faults in configuration files

What can be wrong with the text of a configuration file, and where.

* `Toml.Fault.message` says what is wrong.
* `Toml.Place.of` is the place of a rest of a text.
-/

namespace Literate.Toml

open Text

/-- A dotted key. -/
abbrev Key := List Text

/-- What is wrong with a configuration file. -/
inductive Fault
  | statement
  | statementEnd
  | tableEnd
  | arrayTableEnd
  | declaredTwice (key : Key)
  | redefined (key : Key)
  | immutable (key : Key)
  | overwritten
  | duplicate (key : Text)
  | keyStart
  | equalsSign
  | value
  | moment
  | unclosedArray
  | unclosedTable
  | unterminated
  | backslash
  | hexadecimal
  | codePoint
  | illegal (c : Char)
  /-- A character that may not stand in a comment or between single quotes. -/
  | invalid (c : Char)
  /-- Quotes that never come. -/
  | missing (quotes : Text)
  deriving DecidableEq, Repr

/-- The parts of a key between brackets; a single part has a comma after it. -/
def Key.shown (key : Key) : String :=
  let parts := ", ".intercalate (key.map fun k => (quoted k).toStr)
  "(" ++ parts ++ (if key.length = 1 then "," else "") ++ ")"

/-- What is wrong, as shown. -/
def Fault.message : Fault → String
  | statement => "Invalid statement"
  | statementEnd => "Expected newline or end of document after a statement"
  | tableEnd => "Expected ']' at the end of a table declaration"
  | arrayTableEnd => "Expected ']]' at the end of an array declaration"
  | declaredTwice key => "Cannot declare " ++ Key.shown key ++ " twice"
  | redefined key => "Cannot redefine namespace " ++ Key.shown key
  | immutable key => "Cannot mutate immutable namespace " ++ Key.shown key
  | overwritten => "Cannot overwrite a value"
  | duplicate key => "Duplicate inline table key " ++ (quoted key).toStr
  | keyStart => "Invalid initial character for a key part"
  | equalsSign => "Expected '=' after a key in a key/value pair"
  | value => "Invalid value"
  | moment => "Invalid date or datetime"
  | unclosedArray => "Unclosed array"
  | unclosedTable => "Unclosed inline table"
  | unterminated => "Unterminated string"
  | backslash => "Unescaped '\\' in a string"
  | hexadecimal => "Invalid hex value"
  | codePoint => "Escaped character is not a Unicode scalar value"
  | illegal c => "Illegal character " ++ (quoted [c]).toStr
  | invalid c => "Found invalid character " ++ (quoted [c]).toStr
  | missing quotes => "Expected " ++ (quoted quotes).toStr

/-- A place in a text. -/
inductive Place
  | position (line column : Nat)
  | ending
  deriving DecidableEq, Repr

namespace Place

/-- The place at which a rest of a text begins; lines and columns are counted from one. -/
def of (t rest : Text) : Place :=
  if rest.isEmpty then ending
  else
    let before := t.take (t.length - rest.length)
    position (before.count '\n' + 1) ((before.reverse.takeWhile (· != '\n')).length + 1)

/-- The place as shown. -/
def message : Place → String
  | position line column => s!"line {line}, column {column}"
  | ending => "end of document"

end Place

/-- What is wrong with a configuration file, and where. -/
structure SyntaxError where
  fault : Fault
  place : Place
  deriving DecidableEq, Repr

/-- The error as shown. -/
def SyntaxError.message (e : SyntaxError) : String :=
  e.fault.message ++ " (at " ++ e.place.message ++ ")"

/-- Why a configuration file gives no table. -/
inductive Unreadable
  | malformed (e : SyntaxError)
  | numeral (e : NumeralError)
  deriving DecidableEq, Repr

/-- Why reading stops. -/
inductive Stop
  /-- A fault, and the rest of the text from where it was found. -/
  | fault (fault : Fault) (rest : Text)
  | numeral (e : NumeralError)
  deriving DecidableEq, Repr

/-- What a stop says about the whole text. -/
def Stop.explained (source : Text) : Stop → Unreadable
  | fault f rest => .malformed ⟨f, .of source rest⟩
  | numeral e => .numeral e

/-- What reading comes to: something and the text after it, or a stop. -/
abbrev Reading (α : Type) := Except Stop (α × Text)

/-- Stops with a fault at a rest of the text. -/
def stop {α : Type} (fault : Fault) (rest : Text) : Except Stop α := .error (.fault fault rest)

end Literate.Toml

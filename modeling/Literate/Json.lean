import Literate.Text.Digit

/-!
# JSON output

Machine-readable answers: values, and their text with two spaces of indentation per level.  The text
is ASCII; every other character is written as one or two `\u` escapes.
-/

namespace Literate

/-- A JSON value; the members of an object keep their order. -/
inductive Json
  | null
  | bool (b : Bool)
  | int (n : Int)
  | str (s : String)
  | arr (items : List Json)
  | obj (members : List (String × Json))
  deriving Inhabited

namespace Json

/-- A value for a text. -/
def text (t : Text) : Json := str (String.ofList t)

/-- A value for a natural number. -/
def nat (n : Nat) : Json := int n

/-- A value that may be missing. -/
def option {α : Type} (f : α → Json) : Option α → Json
  | none => null
  | some a => f a

/-- Four hexadecimal digits. -/
def hex4 (n : Nat) : String :=
  let digits := Nat.toDigits 16 n
  String.ofList (List.replicate (4 - digits.length) '0' ++ digits)

/-- One character inside quotes. -/
def escape (c : Char) : String :=
  let n := c.toNat
  if c = '"' then "\\\""
  else if c = '\\' then "\\\\"
  else if n = 10 then "\\n"
  else if n = 13 then "\\r"
  else if n = 9 then "\\t"
  else if n = 12 then "\\f"
  else if n = 8 then "\\b"
  else if 32 ≤ n && n ≤ 126 then c.toString
  else if n < 0x10000 then "\\u" ++ hex4 n
  else "\\u" ++ hex4 (0xd800 + (n - 0x10000) / 0x400) ++ "\\u" ++ hex4 (0xdc00 + (n - 0x10000) % 0x400)

/-- A quoted string. -/
def quote (s : String) : String := s.toList.foldl (fun out c => out ++ escape c) "\"" ++ "\""

/-- A line break followed by two spaces per level. -/
def newline (level : Nat) : String := "\n" ++ String.ofList (List.replicate (2 * level) ' ')

mutual

/-- The text of a value that stands `level` levels deep. -/
def render (level : Nat) : Json → String
  | null => "null"
  | bool true => "true"
  | bool false => "false"
  | int n => toString n
  | str s => quote s
  | arr [] => "[]"
  | arr (v :: vs) =>
    "[" ++ newline (level + 1) ++ render (level + 1) v ++ renderItems (level + 1) vs ++ newline level
      ++ "]"
  | obj [] => "\x7b\x7d"
  | obj ((k, v) :: ms) =>
    "\x7b" ++ newline (level + 1) ++ quote k ++ ": " ++ render (level + 1) v
      ++ renderMembers (level + 1) ms ++ newline level ++ "\x7d"

/-- The items after the first one. -/
def renderItems (level : Nat) : List Json → String
  | [] => ""
  | v :: vs => "," ++ newline level ++ render level v ++ renderItems level vs

/-- The members after the first one. -/
def renderMembers (level : Nat) : List (String × Json) → String
  | [] => ""
  | (k, v) :: ms => "," ++ newline level ++ quote k ++ ": " ++ render level v ++ renderMembers level ms

end

/-- The text of a value over several lines.  Model of `json.dumps` as `cli._emit` calls it. -/
def pretty (v : Json) : String := render 0 v

end Json

end Literate

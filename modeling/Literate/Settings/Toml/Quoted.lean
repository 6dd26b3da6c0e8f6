import Literate.Settings.Toml.Error
import Literate.Text.Digit

/-!
# Texts and keys

The texts of a configuration file in their four kinds of quotes, and dotted keys.

* `Toml.text` reads a text of any kind.
* `Toml.key` reads a dotted key.
* `Toml.skipComment` and `Toml.skipArraySpace` drop what stands between values.
-/

namespace Literate.Toml

open Text

/-! ## Characters -/

/-- Drops spaces and tabs. -/
def skipGaps (t : Text) : Text := t.dropWhile isGap

/-- Controls other than the tab, which no text and no comment may hold. -/
def isControl (c : Char) : Bool := (c.toNat < 32 && c != '\t') || c.toNat == 127

/-- The characters of a key without quotes. -/
def isBareChar (c : Char) : Bool := c.isAlphanum || c == '-' || c == '_'

/-- Passes over a text that may not hold some characters, up to a rest. -/
def pass (refused : Char → Bool) (t passed : Text) (rest : Text) : Reading Text :=
  if passed.any refused then
    match t.dropWhile (!refused ·) with
    | [] => .ok (passed, rest)
    | c :: r => stop (.invalid c) (c :: r)
  else .ok (passed, rest)

/-- Drops a comment; it may not hold controls. -/
def skipComment : Text → Except Stop Text
  | '#' :: r =>
    match pass isControl r (r.takeWhile (· != '\n')) (r.dropWhile (· != '\n')) with
    | .error e => .error e
    | .ok (_, rest) => .ok rest
  | t => .ok t

/-- Drops blanks, newlines and comments between the items of an array; each comment takes one unit
of fuel. -/
def skipArraySpace : Nat → Text → Except Stop Text
  | 0, t => .ok t
  | fuel + 1, t =>
    match t.dropWhile fun c => isGap c || c == '\n' with
    | '#' :: r =>
      match skipComment ('#' :: r) with
      | .error e => .error e
      | .ok rest => skipArraySpace fuel rest
    | r => .ok r

/-! ## Texts -/

/-- The value of a hexadecimal digit. -/
def hexValue? (c : Char) : Option Nat :=
  let n := c.toNat
  if 48 ≤ n && n ≤ 57 then some (n - 48)
  else if 97 ≤ n && n ≤ 102 then some (n - 87)
  else if 65 ≤ n && n ≤ 70 then some (n - 55)
  else none

/-- The number some hexadecimal digits stand for. -/
def hexNumber? (digits : Text) : Option Nat :=
  (digits.mapM hexValue?).map fun ds => ds.foldl (fun n d => 16 * n + d) 0

/-- Reads a character given by its code point in `count` digits. -/
def codePoint (count : Nat) (t : Text) : Reading Char :=
  match hexNumber? (t.take count) with
  | none => stop .hexadecimal t
  | some n =>
    if (t.take count).length < count then stop .hexadecimal t
    else if h : n.isValidChar then .ok (Char.ofNatAux n h, t.drop count)
    else stop .codePoint (t.drop count)

/-- The character a single letter after a backslash stands for. -/
def escape? (c : Char) : Option Char :=
  if c = 'b' then some '\x08'
  else if c = 't' then some '\t'
  else if c = 'n' then some '\n'
  else if c = 'f' then some '\x0c'
  else if c = 'r' then some '\r'
  else if c = '"' then some '"'
  else if c = '\\' then some '\\'
  else none

/-- What follows a backslash at the end of a line, up to the next text. -/
def lineContinuation (t : Text) : Except Stop Text :=
  match skipGaps t with
  | [] => .ok []
  | '\n' :: r => .ok (r.dropWhile fun c => isGap c || c == '\n')
  | r => stop .backslash r

/-- Reads what follows a backslash: the characters it stands for. -/
def escaped (multiline : Bool) (t : Text) : Reading Text :=
  match t with
  | [] => stop .backslash []
  | c :: r =>
    if c = 'u' then (codePoint 4 r).map fun (d, rest) => ([d], rest)
    else if c = 'U' then (codePoint 8 r).map fun (d, rest) => ([d], rest)
    else
      match escape? c with
      | some d => .ok ([d], r)
      | none =>
        if multiline && (isGap c || c == '\n') then (lineContinuation t).map fun rest => ([], rest)
        else stop .backslash r

/-- Reads a text up to its closing double quotes; `fuel` bounds the number of characters. -/
def basic (multiline : Bool) : Nat → Text → Reading Text
  | 0, t => stop .unterminated t
  | _ + 1, [] => stop .unterminated []
  | fuel + 1, c :: r =>
    let put (front rest : Text) := (basic multiline fuel rest).map fun (s, t) => (front ++ s, t)
    if c = '"' then
      if !multiline then .ok ([], r)
      else
        match r with
        | '"' :: '"' :: rest => .ok ([], rest)
        | _ => put [c] r
    else if c = '\\' then
      match escaped multiline r with
      | .error e => .error e
      | .ok (front, rest) => put front rest
    else if isControl c && !(multiline && c == '\n') then stop (.illegal c) (c :: r)
    else put [c] r

/-- Reads a text up to its closing single quote. -/
def literal (t : Text) : Reading Text :=
  match t.dropWhile (· != '\'') with
  | [] => stop (.missing ['\'']) []
  | _ :: rest => pass isControl t (t.takeWhile (· != '\'')) rest

/-- Reads a text up to three single quotes. -/
def multilineLiteral (t : Text) : Reading Text :=
  match search (fun s => (afterPrefix? ['\'', '\'', '\''] s).map fun rest => ((), rest)) t with
  | none => stop (.missing ['\'', '\'', '\'']) []
  | some (s, _, rest) => pass (fun c => isControl c && c != '\n') t s rest

/-- Drops a newline right after the opening quotes. -/
def dropNewline : Text → Text
  | '\n' :: r => r
  | t => t

/-- Adds up to two quotes that stand right after the closing ones. -/
def extraQuotes (q : Char) (s rest : Text) : Text × Text :=
  match rest with
  | a :: r =>
    if a = q then
      match r with
      | b :: r' => if b = q then (s ++ [q, q], r') else (s ++ [q], r)
      | [] => (s ++ [q], [])
    else (s, rest)
  | [] => (s, [])

/-- Reads a text of any kind, from its opening quotes on. -/
def text (t : Text) : Reading Text :=
  match t with
  | '"' :: '"' :: '"' :: r =>
    (basic true (r.length + 1) (dropNewline r)).map fun (s, rest) => extraQuotes '"' s rest
  | '"' :: r => basic false (r.length + 1) r
  | '\'' :: '\'' :: '\'' :: r =>
    (multilineLiteral (dropNewline r)).map fun (s, rest) => extraQuotes '\'' s rest
  | '\'' :: r => literal r
  | _ => stop .value t

/-! ## Keys -/

/-- Reads one part of a key. -/
def keyPart (t : Text) : Reading Text :=
  match t with
  | '"' :: r => basic false (r.length + 1) r
  | '\'' :: r => literal r
  | c :: _ =>
    if isBareChar c then .ok (t.takeWhile isBareChar, t.dropWhile isBareChar)
    else stop .keyStart t
  | [] => stop .keyStart []

/-- Reads the parts of a key after its first one; each takes one unit of fuel. -/
def keyRest : Nat → Key → Text → Reading Key
  | 0, key, t => .ok (key, t)
  | fuel + 1, key, t =>
    match skipGaps t with
    | '.' :: r =>
      match keyPart (skipGaps r) with
      | .error e => .error e
      | .ok (part, rest) => keyRest fuel (key ++ [part]) rest
    | r => .ok (key, r)

/-- Reads a dotted key and the gaps after it. -/
def key (t : Text) : Reading Key :=
  match keyPart t with
  | .error e => .error e
  | .ok (part, rest) => keyRest (rest.length + 1) [part] rest

end Literate.Toml

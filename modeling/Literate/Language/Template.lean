import Literate.Settings.Error
import Literate.Text.Lines

/-!
# Wrapper templates

A template is text with values between double braces, and comments between `{#` and `#}`.  A value is
a name with attributes and elements, and may be indented:

    {{ imports }}
    {{ args.mode }} {{ args['mode'] }}
    {{ body | indent(4, true) }}

This is a part of the language that wrappers are written in.  Every other construct of it is read as a
syntax error: statements, other filters, operators, calls and values written out.

* `Template.parse` reads a template, `Template.render` fills it.
* `Template.indentText` indents lines; every kind of line separator ends a line.
-/

namespace Literate

open Text

/-- How a value is indented. -/
structure Indent where
  /-- What is put before a line. -/
  margin : Text
  /-- Whether the first line is indented too. -/
  first : Bool
  /-- Whether empty lines are indented too. -/
  blank : Bool
  deriving DecidableEq, Repr

/-- One step into a value. -/
inductive Access
  | attribute (name : Text)
  | element (name : Text)
  | index (n : Int)
  deriving DecidableEq, Repr

/-- A value in a template. -/
structure Placeholder where
  name : Text
  accesses : List Access
  indents : List Indent
  deriving DecidableEq, Repr

/-- A part of a template. -/
inductive TemplatePart
  | text (t : Text)
  | value (p : Placeholder)
  deriving DecidableEq, Repr

/-- A value a template can show: a text, or texts by key. -/
inductive TemplateValue
  | text (t : Text)
  | map (entries : List (Text × Text))
  deriving DecidableEq, Repr

namespace Template

/-! ## Indentation -/

/-- The characters that end a line, besides carriage return and newline together. -/
def isLineEnd (c : Char) : Bool :=
  let n := c.toNat
  (10 ≤ n && n ≤ 13) || (28 ≤ n && n ≤ 30) || n == 0x85 || n == 0x2028 || n == 0x2029

/-- The lines of a text without their ends; nothing follows the last line end. -/
def splitLines : Text → List Line
  | [] => []
  | '\r' :: '\n' :: r => [] :: splitLines r
  | c :: r =>
    if isLineEnd c then [] :: splitLines r
    else
      match splitLines r with
      | [] => [[c]]
      | l :: ls => (c :: l) :: ls

/-- The lines of a text with a margin before each one but the first, and before that too if asked.
Model of the filter `indent` of `jinja2`. -/
def indentText (i : Indent) (t : Text) : Text :=
  match splitLines (t ++ ['\n']) with
  | [] => []
  | l :: ls =>
    let rest := ls.map fun l => if l.isEmpty && !i.blank then l else i.margin ++ l
    (if i.first then i.margin else []) ++ join ['\n'] (l :: rest)

/-! ## Reading -/

/-- A token of an expression. -/
inductive Token
  | name (t : Text)
  | str (t : Text)
  | int (n : Nat)
  | op (c : Char)
  deriving DecidableEq, Repr

/-- The first character of a name. -/
def isNameStart (c : Char) : Bool := c.isAlpha || c == '_' || (128 ≤ c.toNat && isPrintable c)

/-- A further character of a name. -/
def isNameRest (c : Char) : Bool := isNameStart c || c.isDigit

/-- Reads a quoted text up to its quote; a backslash keeps the next character. -/
def quotedText? (q : Char) : Text → Option (Text × Text)
  | [] => none
  | '\\' :: c :: r => (quotedText? q r).map fun (s, rest) => (c :: s, rest)
  | c :: r =>
    if c = q then some ([], r) else (quotedText? q r).map fun (s, rest) => (c :: s, rest)

/-- What ends an expression: two closing braces, with a sign that removes the blanks after them. -/
def closing? (t : Text) : Option (Bool × Text) :=
  match t with
  | '-' :: '\x7d' :: '\x7d' :: r => some (true, r)
  | '\x7d' :: '\x7d' :: r => some (false, r)
  | _ => none

/-- How the tokens of an expression end. -/
inductive Ending
  /-- At closing braces; the flag tells whether blanks after them go. -/
  | closed (trims : Bool) (rest : Text)
  | unfinished
  /-- At a character that begins no token. -/
  | unexpected (c : Char)
  deriving DecidableEq, Repr

/-- The characters that are tokens by themselves. -/
def isOperator (c : Char) : Bool :=
  c = '.' || c = '[' || c = ']' || c = '(' || c = ')' || c = ',' || c = '|' || c = '=' || c = '-'

/-- Reads the tokens of an expression. -/
def tokens : Nat → Text → List Token × Ending
  | 0, _ => ([], .unfinished)
  | _ + 1, [] => ([], .unfinished)
  | fuel + 1, c :: r =>
    let put (t : Token) (rest : Text) : List Token × Ending :=
      let (ts, ending) := tokens fuel rest
      (t :: ts, ending)
    match closing? (c :: r) with
    | some (trims, rest) => ([], .closed trims rest)
    | none =>
      if isBlank c then tokens fuel r
      else if isNameStart c then
        put (.name ((c :: r).takeWhile isNameRest)) ((c :: r).dropWhile isNameRest)
      else if c.isDigit then
        let digits := (c :: r).takeWhile Char.isDigit
        put (.int (digits.foldl (fun n d => 10 * n + (d.toNat - 48)) 0)) ((c :: r).dropWhile Char.isDigit)
      else if c = '"' || c = '\'' then
        match quotedText? c r with
        | none => ([], .unexpected c)
        | some (s, rest) => put (.str s) rest
      else if isOperator c then put (.op c) r
      else ([], .unexpected c)

/-- What a token is called in messages. -/
def Token.shown : Token → Text
  | name t => t
  | str _ => "string".toList
  | int _ => "integer".toList
  | op c => [c]

/-- Reads the steps into a value. -/
def accesses : List Token → List Access × List Token
  | .op '.' :: .name n :: ts =>
    let (as, rest) := accesses ts
    (.attribute n :: as, rest)
  | .op '.' :: .int n :: ts =>
    let (as, rest) := accesses ts
    (.index n :: as, rest)
  | .op '[' :: .str s :: .op ']' :: ts =>
    let (as, rest) := accesses ts
    (.element s :: as, rest)
  | .op '[' :: .int n :: .op ']' :: ts =>
    let (as, rest) := accesses ts
    (.index n :: as, rest)
  | .op '[' :: .op '-' :: .int n :: .op ']' :: ts =>
    let (as, rest) := accesses ts
    (.index (-n) :: as, rest)
  | ts => ([], ts)

/-- A truth value by its name. -/
def truth? (n : Text) : Option Bool :=
  if n = "true".toList || n = "True".toList then some true
  else if n = "false".toList || n = "False".toList then some false
  else none

/-- The argument of an indentation: a width, a text or a truth value. -/
inductive Argument
  | width (n : Int)
  | text (t : Text)
  | flag (b : Bool)
  deriving DecidableEq, Repr

/-- Reads one argument. -/
def argument? : List Token → Option (Argument × List Token)
  | .int n :: ts => some (.width n, ts)
  | .op '-' :: .int n :: ts => some (.width (-n), ts)
  | .str s :: ts => some (.text s, ts)
  | .name n :: ts => (truth? n).map fun b => (.flag b, ts)
  | _ => none

/-- The truth of an argument. -/
def Argument.truth : Argument → Bool
  | width n => n ≠ 0
  | text t => !t.isEmpty
  | flag b => b

/-- What an argument puts before a line. -/
def Argument.lead : Argument → Text
  | width n => List.replicate n.toNat ' '
  | text t => t
  | flag b => if b then [' '] else []

/-- Sets the argument at a position. -/
def setArgument? (position : Nat) (a : Argument) (i : Indent) : Option Indent :=
  match position with
  | 0 => some { i with margin := a.lead }
  | 1 => some { i with first := a.truth }
  | 2 => some { i with blank := a.truth }
  | _ => none

/-- The position of a named argument. -/
def position? (n : Text) : Option Nat :=
  if n = "width".toList then some 0
  else if n = "first".toList then some 1
  else if n = "blank".toList then some 2
  else none

/-- Reads arguments up to the closing bracket. -/
def arguments? (i : Indent) : Nat → Nat → List Token → Option (Indent × List Token)
  | 0, _, _ => none
  | _ + 1, _, .op ')' :: ts => some (i, ts)
  | fuel + 1, position, ts =>
    let (position, ts) : Option Nat × List Token :=
      match ts with
      | .name n :: .op '=' :: rest => (position? n, rest)
      | _ => (some position, ts)
    match position, argument? ts with
    | some p, some (a, rest) =>
      match setArgument? p a i with
      | none => none
      | some i' =>
        match rest with
        | .op ',' :: more => arguments? i' fuel (p + 1) more
        | .op ')' :: more => some (i', more)
        | _ => none
    | _, _ => none

/-- An indentation without arguments. -/
def plainIndent : Indent := ⟨List.replicate 4 ' ', false, false⟩

/-- What is wrong with tokens that go on where an expression should end. -/
def leftOver : List Token → TemplateSyntaxError
  | .name t :: _ => .notEnded t
  | .str _ :: _ => .notEnded "string".toList
  | .int _ :: _ => .notEnded "integer".toList
  | .op c :: _ => .unexpected [c]
  | [] => .unfinished

/-- Reads the indentations of a value. -/
def indents : Nat → List Token → Except TemplateSyntaxError (List Indent)
  | _, [] => .ok []
  | 0, ts => .error (leftOver ts)
  | fuel + 1, .op '|' :: .name n :: ts =>
    if n ≠ "indent".toList then .error (.unknownFilter n)
    else
      match ts with
      | .op '(' :: rest =>
        match arguments? plainIndent (rest.length + 1) 0 rest with
        | none => .error (leftOver ts)
        | some (i, more) => (indents fuel more).map (i :: ·)
      | _ => (indents fuel ts).map (plainIndent :: ·)
  | _ + 1, ts => .error (leftOver ts)

/-- What is wrong with an expression without tokens. -/
def nothing : Ending → TemplateSyntaxError
  | .closed _ _ => .noExpression "end of print statement".toList
  | .unfinished => .noExpression "end of template".toList
  | .unexpected c => .unexpected [c]

/-- Reads a value. -/
def placeholder (ending : Ending) : List Token → Except TemplateSyntaxError Placeholder
  | [] => .error (nothing ending)
  | .name n :: ts =>
    let (as, rest) := accesses ts
    (indents (rest.length + 1) rest).map fun is => ⟨n, as, is⟩
  | t :: _ => .error (.unexpected t.shown)

/-- Drops a sign after an opening brace pair and tells whether it removes blanks before it. -/
def openingSign : Text → Bool × Text
  | '-' :: r => (true, r)
  | '+' :: r => (false, r)
  | r => (false, r)

/-- Reads a comment up to its end; the flag tells whether blanks after it go. -/
def comment? : Text → Option (Bool × Text)
  | [] => none
  | '-' :: '#' :: '\x7d' :: r => some (true, r)
  | '#' :: '\x7d' :: r => some (false, r)
  | _ :: r => comment? r

/-- Drops blanks if asked. -/
def trimIf (b : Bool) (t : Text) : Text := if b then trimStart t else t

/-- Reads the parts of a template; `before` is the text since the last value, in reverse. -/
def parts : Nat → Text → Text → Except TemplateSyntaxError (List TemplatePart)
  | 0, _, _ => .error .unfinished
  | _ + 1, before, [] => .ok (if before.isEmpty then [] else [.text before.reverse])
  | fuel + 1, before, c :: r =>
    let lead (trims : Bool) : List TemplatePart :=
      let t := (trimIf trims before).reverse
      if t.isEmpty then [] else [.text t]
    match c, r with
    | '\x7b', '\x7b' :: s =>
      let (trims, s) := openingSign s
      let (ts, ending) := tokens (s.length + 1) s
      match placeholder ending ts, ending with
      | .error e, _ => .error e
      | .ok p, .closed trimsAfter rest =>
        (parts fuel [] (trimIf trimsAfter rest)).map fun ps => lead trims ++ .value p :: ps
      | .ok _, .unfinished => .error .unfinished
      | .ok _, .unexpected c => .error (.unexpected [c])
    | '\x7b', '#' :: s =>
      let (trims, s) := openingSign s
      match comment? s with
      | none => .error .openComment
      | some (trimsAfter, rest) =>
        (parts fuel [] (trimIf trimsAfter rest)).map fun ps => lead trims ++ ps
    | '\x7b', '%' :: _ => .error (.noExpression "end of statement block".toList)
    | _, _ => parts fuel (c :: before) r

/-- Reads a template.  Model of `Environment.from_string` of `jinja2` for
`languages.render_source`. -/
def parse (t : Text) : Except TemplateSyntaxError (List TemplatePart) :=
  let source := plainEnds t
  parts (source.length + 1) [] source

/-! ## Filling -/

/-- What a value is called in messages. -/
def TemplateValue.kind : TemplateValue → Text
  | .text _ => "str object".toList
  | .map _ => "dict object".toList

/-- The text of a value. -/
def TemplateValue.shown : TemplateValue → Text
  | .text t => t
  | .map entries =>
    '\x7b' :: join [',', ' '] (entries.map fun (k, v) => quoted k ++ [':', ' '] ++ quoted v)
      ++ ['\x7d']

/-- One step into a value. -/
def access (v : TemplateValue) (a : Access) : Except TemplateFault TemplateValue :=
  match v, a with
  | .map entries, .attribute n =>
    match entries.lookup n with
    | some t => .ok (.text t)
    | none => .error (.noAttribute (TemplateValue.kind v) n)
  | .map entries, .element n =>
    match entries.lookup n with
    | some t => .ok (.text t)
    | none => .error (.noAttribute (TemplateValue.kind v) n)
  | .text _, .attribute n => .error (.noAttribute (TemplateValue.kind v) n)
  | .text _, .element n => .error (.noAttribute (TemplateValue.kind v) n)
  | .map _, .index i => .error (.noElement (TemplateValue.kind v) i)
  | .text t, .index i =>
    match t[(if i < 0 then i + t.length else i).toNat]? with
    | some c => if i + t.length < 0 then .error (.noElement (TemplateValue.kind v) i) else .ok (.text [c])
    | none => .error (.noElement (TemplateValue.kind v) i)

/-- The text of a value in a template. -/
def fill (values : List (Text × TemplateValue)) (p : Placeholder) : Except TemplateFault Text := do
  match values.lookup p.name with
  | none => throw (.undefinedName p.name)
  | some v =>
    let v ← p.accesses.foldlM access v
    pure (p.indents.foldl (fun t i => indentText i t) (TemplateValue.shown v))

/-- The text of one part. -/
def renderPart (values : List (Text × TemplateValue)) : TemplatePart → Except TemplateFault Text
  | .text t => .ok t
  | .value p => fill values p

/-- Reads and fills a template.  Model of `Template.render` of `jinja2` for
`languages.render_source`. -/
def render (template : Text) (values : List (Text × TemplateValue)) : Except TemplateFault Text :=
  match parse template with
  | .error e => .error (.unreadable e)
  | .ok parts => (parts.mapM (renderPart values)).map List.flatten

end Template

end Literate

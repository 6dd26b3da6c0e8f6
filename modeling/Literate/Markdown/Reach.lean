import Literate.Markdown.Delimiter
import Literate.Markdown.Link
import Literate.Markdown.RawHtml
import Literate.Text.Lines

/-!
# How far inline constructs reach

Brackets belong together unless a construct between them holds one of them, so before a bracket is
matched every construct inside has to be known.  A text is therefore marked from its end to its front
with the length of the construct that starts at each character.

* `reach` is the length of the construct at the front of a text whose rest is marked already.
* `mark` marks a text.
* `linkAt?`, `imageAt?`, `noteAt?` and their like read the constructs; marking and reading share them.
-/

namespace Literate.Markdown

open Text

/-- A text in which every character carries the length of the construct that starts there. -/
abbrev Marked := List (Char × Nat)

/-- The characters of a marked text. -/
def Marked.toText (m : Marked) : Text := m.map Prod.fst

/-- The part of a marked text whose text is the given rest. -/
def Marked.atRest (m : Marked) (rest : Text) : Marked := m.drop (m.length - rest.length)

/-- What the inline markup of a text refers to. -/
structure Scope where
  definitions : Definitions
  notes : List Text

/-! ## Constructs without brackets -/

/-- The code whose backticks start the text, and what follows it; `none` when it is not closed. -/
def codeEnd? (width : Nat) : Nat → Text → Option (Text × Text)
  | 0, _ => none
  | _, [] => none
  | fuel + 1, c :: r =>
    if c = '\x60' then
      let n := ((c :: r).takeWhile (· == '\x60')).length
      let rest := (c :: r).drop n
      if n = width then some ([], rest)
      else (codeEnd? width fuel rest).map fun (t, after) => (List.replicate n '\x60' ++ t, after)
    else (codeEnd? width fuel r).map fun (t, after) => (c :: t, after)

/-- The content of code as shown: newlines are spaces, and a space at both ends goes. -/
def codeContent (t : Text) : Text :=
  let t := t.map fun c => if c = '\n' then ' ' else c
  if t.head? = some ' ' && t.getLast? = some ' ' && !allBlank t then (t.drop 1).dropLast else t

/-- The code at the front of a text, which begins with a backtick, and what follows it. -/
def codeAt? (t : Text) : Option (Text × Text) :=
  let width := (t.takeWhile (· == '\x60')).length
  (codeEnd? width t.length (t.drop width)).map fun (content, rest) => (codeContent content, rest)

/-- What a reference after an ampersand stands for, and what follows it. -/
def entityAt? (t : Text) : Option (Text × Text) :=
  match cut ';' t with
  | (_, none) => none
  | (name, some rest) =>
    match name with
    | '#' :: number =>
      match number with
      | [] => none
      | _ =>
        match numberBody? 7 6 number with
        | some n => some ([if isCodePoint n then Char.ofNat n else '\uFFFD'], rest)
        | none => none
    | _ =>
      if isReferenceName name then (Html.CharRef.named? name).map fun v => (v, rest) else none

/-- Whether a text is an absolute address. -/
def isAbsoluteAddress (t : Text) : Bool :=
  let scheme := t.takeWhile fun c => c.isAlphanum || c = '+' || c = '.' || c = '-'
  match t.drop scheme.length with
  | ':' :: rest =>
    (scheme.head?.map Char.isAlpha).getD false && 2 ≤ scheme.length && scheme.length ≤ 32
      && (Text.dropLast? '\n' rest).all fun c => 32 < c.toNat && !(c = '<' || c = '>')
  | _ => false

/-- Whether a text is a label of the host of a mail address. -/
def isMailLabel (t : Text) : Bool :=
  !t.isEmpty && t.length ≤ 63 && t.all (fun c => c.isAlphanum || c = '-')
    && t.head? ≠ some '-' && t.getLast? ≠ some '-'

/-- Characters other than letters and digits in front of the at sign of a mail address. -/
def mailMarks : List Char := ".!#$%&'*+/=?^_\x60\x7b|\x7d~-".toList

/-- Whether a text is a mail address. -/
def isMailAddress (t : Text) : Bool :=
  match cut '@' (Text.dropLast? '\n' t) with
  | (_, none) => false
  | (user, some host) =>
    !user.isEmpty && user.all (fun c => c.isAlphanum || mailMarks.contains c)
      && (pieces '.' host).all isMailLabel

/-- The address between angle brackets at the front of a text whose bracket was read: where it leads,
how it is shown, and what follows it. -/
def autolinkAt? (t : Text) : Option (Text × Text × Text) :=
  let inner := t.takeWhile fun c => !(c = '<' || c = '>')
  match t.drop inner.length with
  | '>' :: rest =>
    let address? :=
      if isAbsoluteAddress inner then some inner
      else if isMailAddress inner then some ("mailto:".toList ++ inner)
      else none
    match address? with
    | none => none
    | some address =>
      let href := Address.normal address
      if Address.isAllowed href then some (href, Address.shown inner, rest) else none
  | _ => none

/-! ## Constructs with brackets -/

/-- The length of a label whose opening bracket was read; brackets inside belong together in pairs.
`level` brackets are open; `links` says whether links may stand inside. -/
def labelLength? (links : Bool) : Nat → Nat → Marked → Option Nat
  | 0, _, _ => none
  | _, _, [] => none
  | fuel + 1, level, (c, n) :: r =>
    if c = ']' && level ≤ 1 then some 0
    else if c = '[' && n ≠ 1 && !links then none
    else
      let level := if c = ']' then level - 1 else if c = '[' && n = 1 then level + 1 else level
      (labelLength? links fuel level (r.drop (n - 1))).map (· + max n 1)

/-- The label after an opening bracket and what follows its closing bracket. -/
def labelAt? (links : Bool) (m : Marked) : Option (Marked × Marked) :=
  (labelLength? links (m.length + 1) 1 m).map fun n => (m.take n, m.drop (n + 1))

/-- The target in the parentheses whose first was read, and what follows: the closing one if the
target is well formed.  There is none if the text ends first. -/
def inlineTarget? (t : Text) : Option (LinkTarget × Text) :=
  let t := t.dropWhile isSpace
  if t.isEmpty then none
  else
    match destination? t with
    | none => some (⟨[], []⟩, t)
    | some (d, rest) =>
      let href := Address.normal d
      if !Address.isAllowed href then some (⟨[], []⟩, t)
      else
        let body := rest.dropWhile isSpace
        match (if body.length < rest.length then title? body else none) with
        | some (title, after) => some (⟨href, title⟩, after.dropWhile isSpace)
        | none => some (⟨href, []⟩, body)

/-- The target that a label refers to, for a label followed by another one, by an empty one or by
none, and what follows. -/
def referenceAt? (s : Scope) (label after : Marked) (next : Marked) : Option (LinkTarget × Marked) :=
  let (own, rest) :=
    match next with
    | ('[', _) :: m =>
      match labelAt? true m with
      | some (other, rest) => (if other.isEmpty then label else other, rest)
      | none => (label, after)
    | _ => (label, after)
  (s.definitions.lookup (labelKey own.toText)).map fun target => (target, rest)

/-- A link or an image: its label, its target and what follows it. -/
structure Linked where
  label : Marked
  target : LinkTarget
  rest : Marked

/-- The link at the front of a text whose bracket was read. -/
def linkAt? (s : Scope) (m : Marked) : Option Linked :=
  match labelAt? false m with
  | none => none
  | some (label, after) =>
    match after with
    | ('(', _) :: body =>
      match inlineTarget? (Marked.toText body) with
      | none => none
      | some (target, rest) =>
        let rest := Marked.atRest body rest
        match rest with
        | (')', _) :: rest => some ⟨label, target, rest⟩
        | _ => (referenceAt? s label after (rest.drop 1)).map fun (t, rest) => ⟨label, t, rest⟩
    | _ => (referenceAt? s label after after).map fun (t, rest) => ⟨label, t, rest⟩

/-- The image at the front of a text whose exclamation mark and bracket were read. -/
def imageAt? (s : Scope) (m : Marked) : Option Linked :=
  match labelAt? true m with
  | none => none
  | some (label, after) =>
    match after with
    | ('(', _) :: body =>
      match inlineTarget? (Marked.toText body) with
      | none => none
      | some (target, rest) =>
        match Marked.atRest body rest with
        | (')', _) :: rest => some ⟨label, target, rest⟩
        | _ => none
    | _ => (referenceAt? s label after after).map fun (t, rest) => ⟨label, t, rest⟩

/-- The label of the note that is referred to at the front of a text whose bracket was read, and the
length of the reference without that bracket. -/
def noteAt? (s : Scope) (t : Text) : Option (Text × Nat) :=
  match t with
  | '^' :: r =>
    let label := r.takeWhile fun c => !(c = ' ' || c = '\n' || c = ']')
    match r.drop label.length with
    | ']' :: _ => if s.notes.contains label then some (label, label.length + 2) else none
    | _ => none
  | _ => none

/-! ## Marking -/

/-- The length of what a rest leaves of a text. -/
def before (t : Text) (rest : Text) : Nat := t.length - rest.length

/-- The length of the construct that starts with `c`, given the marked text after it. -/
def reach (s : Scope) (c : Char) (m : Marked) : Nat :=
  let r := m.toText
  match c with
  | '\n' => 1 + (r.takeWhile isGap).length
  | '\\' =>
    match r with
    | [] => 1
    | '\n' :: r => 2 + (r.takeWhile isGap).length
    | _ => 2
  | '\x60' =>
    match codeAt? (c :: r) with
    | some (_, rest) => before (c :: r) rest
    | none => 1 + (r.takeWhile (· == '\x60')).length
  | '[' =>
    match linkAt? s m with
    | some l => m.length + 1 - l.rest.length
    | none =>
      match noteAt? s r with
      | some (_, n) => n + 1
      | none => 1
  | '!' =>
    match m with
    | ('[', _) :: m' =>
      match imageAt? s m' with
      | some l => m.length + 1 - l.rest.length
      | none => 1
    | _ => 1
  | '^' =>
    match m with
    | ('[', _) :: m' =>
      match labelAt? true m' with
      | some (_, rest) => m.length + 1 - rest.length
      | none => 1
    | _ => 1
  | '<' =>
    match autolinkAt? r with
    | some (_, _, rest) => before (c :: r) rest
    | none =>
      match RawHtml.inline? (c :: r) with
      | some rest => before (c :: r) rest
      | none => 1
  | '&' =>
    match entityAt? r with
    | some (_, rest) => before (c :: r) rest
    | none => 1
  | _ => 1

/-- Marks a text. -/
def mark (s : Scope) : Text → Marked
  | [] => []
  | c :: r =>
    let m := mark s r
    (c, reach s c m) :: m

end Literate.Markdown

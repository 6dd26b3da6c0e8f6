import Literate.Html.Tag
import Literate.Text.Quoted

/-!
# Events

A text with markup is a sequence of events: text, start tags, end tags and notes.  Reading never
gives up on what looks like a tag and is none: it becomes text.  The content of scripts and style
sheets is read up to their end tag.

* `Event.step` reads one piece.
* `Event.ofText` reads a whole text.  A piece that looks unfinished is looked at once more when the
  text has come to its end.
-/

namespace Literate.Html

open Text

/-- A piece of a text with markup. -/
inductive Event
  | text (t : Text)
  | start (tag : StartTag)
  | stop (name : Text)
  | note (kind : NoteKind) (content : Text)

/-- Why a text with markup cannot be read. -/
inductive MarkupError
  /-- A marked section has an unknown name. -/
  | unknownSection (name : Text)
  /-- A marked section has no name; the text is where it was missing. -/
  | namelessSection (near : Text)
  deriving DecidableEq, Repr

/-- The cause as shown. -/
def MarkupError.cause : MarkupError → String
  | .unknownSection name => "unknown status keyword " ++ (quoted name).toStr ++ " in marked section"
  | .namelessSection near => "expected name token at " ++ (quoted near).toStr

/-- The error as shown. -/
def MarkupError.message (e : MarkupError) : String :=
  "The markup you provided was rejected by the parser. Trying a different parser or a different " ++
  "encoding may help.\n\nOriginal error(s) from parser:\n AssertionError: " ++ e.cause

namespace Event

/-- What reading one piece comes to. -/
inductive Step
  /-- Events, and the rest; `raw` is the element whose raw content follows. -/
  | next (events : List Event) (rest : Text) (raw : Option Text)
  /-- Events, and the rest that cannot be read yet. -/
  | halt (events : List Event) (rest : Text)
  | failed (e : MarkupError)

/-- The text as an event, none for the empty text. -/
def ofPlain (t : Text) : List Event := if t.isEmpty then [] else [.text t]

/-- Recognises two brackets or two hyphens, then blanks, then the closing bracket. -/
def closing? (marks : Text) (t : Text) : Option (Unit × Text) :=
  match marks with
  | [] =>
    match t.dropWhile isBlank with
    | '>' :: rest => some ((), rest)
    | _ => none
  | m :: ms =>
    match afterPrefix? [m] t with
    | some rest => closing? ms (if ms.isEmpty || m = '-' then rest else rest.dropWhile isBlank)
    | none => none

/-- Recognises the end tag of an element with raw content. -/
def rawEnd? (name : Text) (t : Text) : Option (Unit × Text) :=
  match afterPrefix? ['<', '/'] t with
  | none => none
  | some r =>
    let body := r.dropWhile isBlank
    if (body.take name.length).map Char.toLower == name then closing? [] (body.drop name.length)
    else none

/-- Elements with raw content. -/
def isRaw (name : Text) : Bool := name == "script".toList || name == "style".toList

/-- What becomes of a piece that is not finished: looked at again later, or text. -/
def unfinished (final : Bool) (t : Text) : Step :=
  if !final then .halt [] t
  else
    match cut '>' (t.drop 1) with
    | (inner, some rest) => .next [.text (t.take 1 ++ inner ++ ['>'])] rest none
    | (_, none) =>
      match cut '<' (t.drop 1) with
      | (inner, some _) => .next [.text (t.take 1 ++ inner)] (t.drop (1 + inner.length)) none
      | (_, none) => .next [.text (t.take 1)] (t.drop 1) none

/-- The start tag at the front of a text. -/
def startStep (final : Bool) (t : Text) : Step :=
  match StartTag.read t with
  | .tag tag rest =>
    .next [.start tag] rest (if isRaw tag.name && !tag.closed then some tag.name else none)
  | .broken source rest => .next [.text source] rest none
  | .incomplete => unfinished final t

/-- Whether a character may stand in the name of an end tag. -/
def isEndNameChar (c : Char) : Bool := c.isAlphanum || c = '-' || c = '.' || c = ':' || c = '_'

/-- The end tag at the front of a text, which begins with an opening bracket and a slash. -/
def stopStep (final : Bool) (t : Text) : Step :=
  match cut '>' (t.drop 2) with
  | (_, none) => unfinished final t
  | (inner, some rest) =>
    let body := inner.dropWhile isBlank
    let name := body.takeWhile isEndNameChar
    if (body.head?.map Char.isAlpha).getD false && allBlank (body.drop name.length) then
      .next [.stop (lower name)] rest none
    else if (inner.head?.map Char.isAlpha).getD false then
      .next [.stop (lower (inner.takeWhile (!StartTag.endsName ·)))] rest none
    else if inner.isEmpty then .next [] rest none
    else .next [.note .comment inner] rest none

/-- The comment at the front of a text. -/
def commentStep (final : Bool) (t : Text) : Step :=
  match search (closing? ['-', '-']) (t.drop 4) with
  | some (content, _, rest) => .next [.note .comment content] rest none
  | none => unfinished final t

/-- What stands between two characters and the next closing bracket. -/
def bracketStep (final : Bool) (kind : NoteKind) (skip : Nat) (t : Text) : Step :=
  match cut '>' (t.drop 2) with
  | (content, some rest) => .next [.note kind (content.drop skip)] rest none
  | (_, none) => unfinished final t

/-- Names of marked sections that end with two square brackets. -/
def standardSections : List String := ["temp", "cdata", "ignore", "include", "rcdata"]

/-- Names of marked sections that end with one square bracket. -/
def conditionalSections : List String := ["if", "else", "endif"]

/-- The marked section at the front of a text, which begins with three marks. -/
def sectionStep (final : Bool) (t : Text) : Step :=
  let body := t.drop 3
  let word := body.takeWhile fun c => c.isAlphanum || c = '-' || c = '_' || c = '.'
  let after := (body.drop word.length).dropWhile isBlank
  if body.isEmpty then unfinished final t
  else if !(body.head?.map Char.isAlpha).getD false then .failed (.namelessSection (t.take 20))
  else if after.isEmpty then unfinished final t
  else
    let name := lower word
    let marks? : Option Text :=
      if standardSections.any (·.toList == name) then some [']', ']']
      else if conditionalSections.any (·.toList == name) then some [']']
      else none
    match marks? with
    | none => .failed (.unknownSection (body.take (body.length - after.length)))
    | some marks =>
      match search (closing? marks) body with
      | none => unfinished final t
      | some (content, _, rest) =>
        if (lower (content.take 6)) == "cdata[".toList then
          .next [.note .section (content.drop 6)] rest none
        else .next [.note .declaration content] rest none

/-- What begins with an opening bracket. -/
def markupStep (final : Bool) (t : Text) : Step :=
  match t with
  | '<' :: '/' :: _ => stopStep final t
  | '<' :: '!' :: '-' :: '-' :: _ => commentStep final t
  | '<' :: '?' :: _ => bracketStep final .instruction 0 t
  | '<' :: '!' :: '[' :: _ => sectionStep final t
  | '<' :: '!' :: r =>
    if lower (r.take 7) == "doctype".toList then bracketStep final .doctype 8 t
    else bracketStep final .comment 0 t
  | '<' :: c :: r => if c.isAlpha then startStep final t else .next [.text ['<']] (c :: r) none
  | _ => .halt [] t

/-- A reference by number at the front of a text, which begins with an ampersand and a hash. -/
def numberStep (t : Text) : Step :=
  let body := t.drop 2
  let hex := body.head? == some 'x' || body.head? == some 'X'
  let digits := (if hex then body.drop 1 else body).takeWhile
    (if hex then CharRef.isHexDigit else Char.isDigit)
  let rest := body.drop (digits.length + if hex then 1 else 0)
  if digits.isEmpty || rest.isEmpty || (rest.head?.map CharRef.isHexDigit).getD false then
    if t.contains ';' then .halt [.text ['&', '#']] body else .halt [] t
  else
    let c := CharRef.ofNumber (CharRef.numberOf (if hex then 16 else 10) digits)
    .next [.text [c]] (CharRef.dropSemicolon rest) none

/-- Whether a character may stand in the name of a reference. -/
def isRefNameChar (c : Char) : Bool := c.isAlphanum || c = '-' || c = '.'

/-- What a named reference stands for; an unknown one stands for itself. -/
def refText (name : Text) : Text := (CharRef.named? name).getD ('&' :: name)

/-- A reference by name at the front of a text, which begins with an ampersand and a letter. -/
def nameStep (final : Bool) (t : Text) : Step :=
  let run := (t.drop 1).takeWhile isRefNameChar
  let rest := t.drop (1 + run.length)
  if !rest.isEmpty then .next [.text (refText run)] (CharRef.dropSemicolon rest) none
  else
    let tail := (run.reverse.takeWhile Char.isAlphanum).length
    if tail < run.length then
      .next [.text (refText (run.take (run.length - tail - 1)))] (run.drop (run.length - tail - 1)) none
    else if final && t.length == 2 then .halt [] (t.drop 1)
    else .halt [] t

/-- What begins with an ampersand. -/
def referenceStep (final : Bool) (t : Text) : Step :=
  match t with
  | '&' :: '#' :: _ => numberStep t
  | '&' :: c :: r => if c.isAlpha then nameStep final t else .next [.text ['&']] (c :: r) none
  | _ => .halt [] t

/-- Reads one piece of a text that is not empty, inside the raw content of an element or not. -/
def step (final : Bool) (raw : Option Text) (t : Text) : Step :=
  match raw with
  | some name =>
    match search (rawEnd? name) t with
    | some (content, _, rest) => .next (ofPlain content ++ [.stop name]) rest none
    | none => .halt [] t
  | none =>
    match t with
    | '<' :: _ => markupStep final t
    | '&' :: _ => referenceStep final t
    | _ =>
      let plain := t.takeWhile fun c => !(c = '<' || c = '&')
      .next [.text plain] (t.drop plain.length) none

/-- How far a text was read. -/
structure Progress where
  events : List Event
  rest : Text
  raw : Option Text

/-- Reads pieces until none can be read; `fuel` bounds their number. -/
def readPieces (final : Bool) : Nat → Option Text → Text → Except MarkupError Progress
  | 0, raw, t => .ok ⟨[], t, raw⟩
  | fuel + 1, raw, t =>
    if t.isEmpty then .ok ⟨[], [], raw⟩
    else
      match step final raw t with
      | .failed e => .error e
      | .halt events rest => .ok ⟨events, rest, raw⟩
      | .next events rest raw =>
        match readPieces final fuel raw rest with
        | .error e => .error e
        | .ok p => .ok ⟨events ++ p.events, p.rest, p.raw⟩

/-- The events of a text.  Model of `feed` and `close` of `html.parser`. -/
def ofText (t : Text) : Except MarkupError (List Event) :=
  match readPieces false (t.length + 1) none t with
  | .error e => .error e
  | .ok first =>
    match readPieces true (first.rest.length + 1) first.raw first.rest with
    | .error e => .error e
    | .ok last =>
      .ok (first.events ++ last.events ++ if last.raw.isNone then ofPlain last.rest else [])

end Event

end Literate.Html

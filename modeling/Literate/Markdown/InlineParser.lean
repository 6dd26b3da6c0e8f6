import Literate.Markdown.NoteList
import Literate.Markdown.Reach

/-!
# Reading inline markup

Reads the content of a paragraph, a heading or a table cell from left to right.

* `Found.at` is the construct at the front of a marked text.
* `scan` reads one construct after the other; the labels of links, images and notes are read in turn.
* `Inline.ofText` reads a text.
-/

namespace Literate.Markdown

open Text

/-- What stands at the front of a text. -/
inductive Found
  /-- Text that stands for itself. -/
  | text (t : Text)
  | newline
  | atoms (pieces : List Atom)
  | link (target : LinkTarget) (label : Marked)
  | image (target : LinkTarget) (label : Text)
  | note (content : Text)
  | reference (label : Text)

namespace Found

/-- One finished piece. -/
def piece (i : Inline) : Found := .atoms [.done i]

/-- The delimiters of a run of asterisks or underscores. -/
def run (mark before after : Char) (width : Nat) : Found :=
  let (opens, closes) := Delimiter.flanks (mark = '*') before after
  .atoms (List.replicate width (.delimiter ⟨mark, width, opens, closes⟩))

/-- The delimiters of a run of at least two tildes. -/
def tildes (before after : Char) (width : Nat) : Found :=
  let (opens, closes) := Delimiter.flanks true before after
  let odd := if width % 2 = 1 then [Atom.done (.text ['~'])] else []
  .atoms (odd ++ List.replicate (width / 2) (.delimiter ⟨'~', 0, opens, closes⟩))

/-- The construct after a backslash and what follows it. -/
def escaped : Marked → Found × Marked
  | [] => (.text ['\\'], [])
  | (c, _) :: m =>
    if c = '\n' then (piece .hardBreak, m.dropWhile fun p => isGap p.1)
    else if isAsciiPunctuation c then (piece (.special [c]), m)
    else (piece (.special ['\\', c]), m)

/-- The construct at an opening bracket, which was read, and what follows it. -/
def bracketed (s : Scope) (m : Marked) : Found × Marked :=
  match linkAt? s m with
  | some l => (.link l.target l.label, l.rest)
  | none =>
    match noteAt? s (Marked.toText m) with
    | some (label, n) => (.reference label, m.drop n)
    | none => (.text ['['], m)

/-- The construct at an opening angle bracket, which was read, and what follows it. -/
def angled (m : Marked) : Found × Marked :=
  let t := Marked.toText m
  match autolinkAt? t with
  | some (href, shown, rest) =>
    (.atoms [.done (.opening (.link href [])), .done (.text shown), .done (.closing (.link href []))],
      Marked.atRest m rest)
  | none =>
    match RawHtml.inline? ('<' :: t) with
    | some rest =>
      let rest := Marked.atRest m rest
      (piece (.html ('<' :: t.take (m.length - rest.length))), rest)
    | none => (.text ['<'], m)

/-- The construct that starts with `c` and what follows it; `before` is the character in front of it
and `m` the text after it. -/
def «at» (s : Scope) (before c : Char) (m : Marked) : Found × Marked :=
  match c with
  | '\n' => (.newline, m.dropWhile fun p => isGap p.1)
  | '\\' => escaped m
  | '\x60' =>
    let t := Marked.toText m
    match codeAt? (c :: t) with
    | some (content, rest) => (piece (.code content), Marked.atRest m rest)
    | none =>
      let more := m.takeWhile fun p => p.1 == c
      (.text (c :: Marked.toText more), m.drop more.length)
  | '~' =>
    let width := 1 + (m.takeWhile fun p => p.1 == c).length
    if width < 2 then (.text [c], m)
    else
      let rest := m.drop (width - 1)
      (tildes before ((Marked.toText rest).headD ' ') width, rest)
  | '[' => bracketed s m
  | '!' =>
    match m with
    | ('[', _) :: inner =>
      match imageAt? s inner with
      | some l => (.image l.target (Marked.toText l.label), l.rest)
      | none => (.text [c], m)
    | _ => (.text [c], m)
  | '^' =>
    match m with
    | ('[', _) :: inner =>
      match labelAt? true inner with
      | some (label, rest) => (.note (Marked.toText label), rest)
      | none => (.text [c], m)
    | _ => (.text [c], m)
  | '<' => angled m
  | '&' =>
    match entityAt? (Marked.toText m) with
    | some (value, rest) => (piece (.special value), Marked.atRest m rest)
    | none => (.text [c], m)
  | _ =>
    if c = '*' || c = '_' then
      let width := 1 + (m.takeWhile fun p => p.1 == c).length
      let rest := m.drop (width - 1)
      (run c before ((Marked.toText rest).headD ' ') width, rest)
    else (.text [c], m)

end Found

/-- What was read of a content. -/
structure Scan where
  /-- The pieces, the last one first. -/
  atoms : List Atom
  /-- Text that may go on, the last character first. -/
  pending : Text
  notes : NoteList

namespace Scan

/-- Nothing read so far. -/
def start (notes : NoteList) : Scan := ⟨[], [], notes⟩

/-- Ends the text that may go on. -/
def flush (st : Scan) : Scan :=
  if st.pending.isEmpty then st
  else { st with atoms := .done (.text st.pending.reverse) :: st.atoms, pending := [] }

/-- Appends pieces. -/
def push (st : Scan) (pieces : List Atom) : Scan :=
  let st := st.flush
  { st with atoms := pieces.reverse ++ st.atoms }

/-- Appends text that may go on. -/
def addText (st : Scan) (t : Text) : Scan := { st with pending := t.reverse ++ st.pending }

/-- A newline: two spaces before it make it a hard one. -/
def newline (st : Scan) : Scan :=
  match st.pending with
  | ' ' :: ' ' :: r => { st with pending := r.dropWhile (· == ' ') }.push [.done .hardBreak]
  | ' ' :: r => { st with pending := r }.push [.done .softBreak]
  | _ => st.push [.done .softBreak]

/-- The pieces in document order. -/
def pieces (st : Scan) : List Atom := st.flush.atoms.reverse

end Scan

/-- Reads a marked text; `before` is the character in front of it. -/
def scan (s : Scope) : Nat → Char → Scan → Marked → Scan
  | 0, _, st, _ => st
  | _, _, st, [] => st
  | fuel + 1, before, st, (c, n) :: m =>
    let (found, rest) := Found.at s before c m
    let last := ((((c, n) :: m).take (m.length + 1 - rest.length)).getLast?.map Prod.fst).getD c
    match found with
    | .text t => scan s fuel last (st.addText t) rest
    | .newline => scan s fuel last st.newline rest
    | .atoms pieces => scan s fuel last (st.push pieces) rest
    | .link target label =>
      let inner := scan s fuel '[' (.start st.notes) label
      let tag := Surround.link target.destination target.title
      let content := (Atom.resolve inner.pieces).map Atom.done
      let pieces := .done (.opening tag) :: content ++ [.done (.closing tag)]
      scan s fuel last { st.push pieces with notes := inner.notes } rest
    | .image target label =>
      let inner := scan s fuel ' ' (.start st.notes) (mark s label)
      let i := Inline.image target.destination target.title (Atom.resolve inner.pieces)
      scan s fuel last { st.push [.done i] with notes := inner.notes } rest
    | .note label =>
      let number := st.notes.size
      let inner := scan s fuel ' ' (.start st.notes) (mark s label)
      let notes := inner.notes.put number (.written (Atom.resolve inner.pieces))
      scan s fuel last { st.push [.done (.noteRef number 0)] with notes } rest
    | .reference label =>
      let (number, earlier, notes) := st.notes.refer label
      scan s fuel last { st.push [.done (.noteRef number earlier)] with notes } rest

/-- Reads the inline markup of a text, and the list of notes from then on. -/
def Inline.ofText (s : Scope) (notes : NoteList) (t : Text) : List Inline × NoteList :=
  let st := scan s (t.length + 1) ' ' (.start notes) (mark s t)
  (Atom.resolve st.pieces, st.notes)

end Literate.Markdown

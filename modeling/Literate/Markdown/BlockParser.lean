import Literate.Markdown.BlockStart
import Literate.Text.Lines

/-!
# Reading blocks

Reads the block structure of lines.  A kind of block is chosen by its first line; each kind then says
how far it goes.

* `quoteLines` finds the lines that a quotation may hold.
* `readBlocks` reads the content of a container up to the first line that lies outside of it,
  `readItems` reads the items of a list.
* `Block.ofText` reads a text.
-/

namespace Literate.Markdown

open Text

namespace SourceLine

/-- Whether the last of the first `count` lines is empty. -/
def endsEmpty (ls : List SourceLine) (count : Nat) : Bool :=
  ((ls.take count).getLast?.map isEmpty).getD false

end SourceLine

/-! ## Front matter -/

/-- The length of the run of hyphens at the front of a text. -/
def hyphens (t : Text) : Nat := (t.takeWhile (· == '-')).length

/-- The lines after front matter that starts with a run of `width` hyphens; `before` is the body of
the line right before, and three dots end the front matter as well. -/
def frontMatterEnd? (p : Place) (width : Nat) (before : Text) :
    List SourceLine → Option (List SourceLine)
  | [] => none
  | l :: rest =>
    if before == ['.', '.', '.'] || (!l.isEmpty && l.isOutside p) then some (l :: rest)
    else
      let n := hyphens l.body
      if 0 < n && !l.isCode p && width ≤ n && (l.body.drop n).all isGap then some rest
      else frontMatterEnd? p width l.body rest

/-- The lines after the front matter at the front of the lines. -/
def frontMatter? (p : Place) : List SourceLine → Option (List SourceLine)
  | [] => none
  | l :: rest =>
    let n := hyphens l.body
    if l.isFront && 3 ≤ n then frontMatterEnd? p n l.body rest else none

/-! ## Blocks without blocks inside -/

/-- The rows of a table and the lines after it. -/
def tableRows (p : Place) (columns : Nat) : List SourceLine → List (List Text) × List SourceLine
  | [] => ([], [])
  | l :: rest =>
    if l.isOutside p || interrupts p .container (l :: rest) || (trim l.body).isEmpty || l.isCode p then
      ([], l :: rest)
    else
      let cs := rowCells l.body
      let row := (List.range columns).map fun i => trim (cs.getD i [])
      let (rows, after) := tableRows p columns rest
      (row :: rows, after)

/-- The table at the front of the lines, and the lines after it. -/
def table? (p : Place) : List SourceLine → Option (Block × List SourceLine)
  | header :: ruler :: rest =>
    match tableHead? p header ruler with
    | none => none
    | some (columns, row) =>
      let (rows, after) := tableRows p columns.length rest
      some (.table columns row rows, after)
  | _ => none

/-- The number of lines of indented code: up to the last line of code, over empty ones. -/
def codeLength (p : Place) : List SourceLine → Nat
  | [] => 0
  | l :: rest =>
    let more := codeLength p rest
    if l.isEmpty then if more = 0 then 0 else more + 1
    else if l.isCode p then more + 1
    else 0

/-- The lines of a fenced block and the lines after it. -/
def fenceLines (p : Place) (mark : Char) (width : Nat) :
    List SourceLine → List SourceLine × List SourceLine
  | [] => ([], [])
  | l :: rest =>
    let n := (l.body.takeWhile (· == mark)).length
    if !l.isEmpty && l.isOutside p then ([], l :: rest)
    else if 0 < n && width ≤ n && !l.isCode p && (l.body.drop n).all isGap then ([], rest)
    else
      let (content, after) := fenceLines p mark width rest
      (l :: content, after)

/-- The lines of a block of HTML after its first, and the lines after it. -/
def htmlLines (p : Place) (kind : RawHtml.BlockKind) :
    List SourceLine → List SourceLine × List SourceLine
  | [] => ([], [])
  | l :: rest =>
    if l.isOutside p then ([], l :: rest)
    else if kind.isEnd l.body then if l.body.isEmpty then ([], l :: rest) else ([l], rest)
    else
      let (content, after) := htmlLines p kind rest
      (l :: content, after)

/-- The lines that go on with a paragraph or a link definition. -/
def continuation (p : Place) (what : Interrupted) : List SourceLine → List SourceLine
  | [] => []
  | l :: rest =>
    if l.isEmpty then []
    else if !(l.isCode p || l.indent < 0) && interrupts p what (l :: rest) then []
    else l :: continuation p what rest

/-- The label at the front of a definition, whose bracket was read, and what follows its colon. -/
def definitionLabel? : Text → Option (Text × Text)
  | [] => none
  | '[' :: _ => none
  | ']' :: ':' :: rest => some ([], rest)
  | ']' :: _ => none
  | '\\' :: c :: r => (definitionLabel? r).map fun (t, rest) => ('\\' :: c :: t, rest)
  | c :: r => (definitionLabel? r).map fun (t, rest) => (c :: t, rest)

/-- What follows on a line after its gaps, when that is nothing. -/
def lineEnd? (t : Text) : Option Text :=
  match t.dropWhile isGap with
  | [] => some []
  | '\n' :: rest => some ('\n' :: rest)
  | _ => none

/-- The link definition at the front of a text, and the text after it. -/
def definitionOf? (t : Text) : Option (Block × Text) :=
  match t with
  | '[' :: r =>
    match definitionLabel? r with
    | none => none
    | some (label, afterLabel) =>
      match destination? (afterLabel.dropWhile isSpace) with
      | none => none
      | some (destination, afterDestination) =>
        let href := Address.normal destination
        let key := labelKey label
        if !Address.isAllowed href || key.isEmpty then none
        else
          let body := afterDestination.dropWhile isSpace
          let titled? :=
            if body.length < afterDestination.length then
              match title? body with
              | none => none
              | some (title, rest) =>
                match lineEnd? rest with
                | some rest => some (title, rest)
                | none => if title.isEmpty then some (title, rest) else none
            else none
          match titled? with
          | some (title, rest) =>
            (lineEnd? rest).map fun rest => (.definition key ⟨href, title⟩, rest)
          | none =>
            (lineEnd? afterDestination).map fun rest => (.definition key ⟨href, []⟩, rest)
  | _ => none

/-- The link definition at the front of the lines, and the lines after it. -/
def definition? (p : Place) : List SourceLine → Option (Block × List SourceLine)
  | [] => none
  | l :: rest =>
    if l.isCode p then none
    else
      let ls := l :: continuation p .definition rest
      let source := ls.flatMap fun l => l.body ++ if l.ended then ['\n'] else []
      match definitionOf? source with
      | none => none
      | some (b, after) =>
        let used := source.take (source.length - after.length)
        some (b, rest.drop (min (used.count '\n') (ls.length - 1)))

/-- The lines of a heading that is underlined, its level, and the lines after it; `text` are the
lines before. -/
def underlined? (p : Place) (text : List SourceLine) :
    List SourceLine → Option (List SourceLine × Nat × List SourceLine)
  | [] => none
  | l :: rest =>
    if l.isEmpty then none
    else if l.isCode p then underlined? p (text ++ [l]) rest
    else
      let mark := l.body.headD ' '
      let isLine := (mark = '-' || mark = '=') && (l.body.dropWhile (· == mark)).all isGap
      if !l.isOutside p && isLine then some (text, if mark = '=' then 1 else 2, rest)
      else if !(l.indent < 0) && interrupts p .paragraph (l :: rest) then none
      else underlined? p (text ++ [l]) rest

/-- The block of HTML at the front of the lines, and the lines after it. -/
def html? (p : Place) : List SourceLine → Option (Block × List SourceLine)
  | [] => none
  | l :: rest =>
    match RawHtml.blockKind? l.body with
    | none => none
    | some kind =>
      let (content, after) := if kind.isEnd l.body then ([], rest) else htmlLines p kind rest
      some (.html (SourceLine.joinWithEnds p.indent (l :: content)), after)

/-- A block that is fenced, code, a break, a heading or HTML, whichever the first line starts. -/
def marked? (p : Place) (l : SourceLine) (rest : List SourceLine) :
    Option (Block × List SourceLine) :=
  match heading? l.body with
  | some (level, source) => some (.heading level source, rest)
  | none =>
    match underlined? p [l] rest with
    | some (ls, level, after) => some (.heading level (trim (SourceLine.joined p.indent ls)), after)
    | none => none

/-- The paragraph at the front of the lines, and the lines after it. -/
def paragraphAt (p : Place) (l : SourceLine) (rest : List SourceLine) : Block × List SourceLine :=
  let more := continuation p .paragraph rest
  (.paragraph false (trim (SourceLine.joined p.indent (l :: more))), rest.drop more.length)

/-- Indented code at the front of the lines, and the lines after it. -/
def codeAt (p : Place) (ls : List SourceLine) : Block × List SourceLine :=
  let n := codeLength p ls
  (.code (SourceLine.joined (p.indent + 4) (ls.take n) ++ ['\n']), ls.drop n)

/-- A fenced block at the front of the lines, and the lines after it. -/
def fenceAt (p : Place) (mark : Char) (width : Nat) (info : Text) (l : SourceLine)
    (rest : List SourceLine) : Block × List SourceLine :=
  let (content, after) := fenceLines p mark width rest
  (.fence info (SourceLine.joinWithEnds l.indent.toNat content), after)

/-! ## Quotations -/

/-- A line of a quotation as its content sees it. -/
def enterQuote (l : SourceLine) : SourceLine :=
  let after := l.body.drop 1
  let column := l.indent.toNat + 1
  let (text, start, extra, spaced) :=
    match after with
    | ' ' :: r => (r, column + 1, 0, true)
    | '\t' :: r =>
      if (l.column + column) % 4 = 3 then (r, column + 1, 0, true) else (after, column, 1, true)
    | _ => (after, column, 0, false)
  let (shift, stop) := SourceLine.gap (l.column + extra) start text
  { l with
    text
    shift
    indent := (stop - start : Nat)
    column := l.indent.toNat + 1 + if spaced then 1 else 0 }

/-- The lines of a quotation after its first as its content sees them; `goesOn` says whether a
paragraph may go on without a mark.  Lines without a mark that no paragraph takes lie outside. -/
def quoteLines (p : Place) (goesOn : Bool) : List SourceLine → List SourceLine
  | [] => []
  | l :: rest =>
    if l.isEmpty then []
    else if l.body.head? = some '>' && !l.isOutside p then
      let inner := enterQuote l
      inner :: quoteLines p (!inner.isEmpty) rest
    else if !goesOn || interrupts p .container (l :: rest) then []
    else { l with indent := -1 } :: quoteLines p true rest

/-! ## Lists -/

/-- The first line of a list item as its content sees it, and the column of the content. -/
def enterItem (m : ListMarker) (l : SourceLine) : SourceLine × Nat :=
  let start := l.indent.toNat + m.width
  let (n, stop) := SourceLine.gap l.column start (l.body.drop m.width)
  let shift := l.shift + m.width + n
  let far := if l.text.length ≤ shift then 1 else stop - start
  ({ l with shift, indent := stop }, start + if 4 < far then 1 else far)

/-- The first line of a note as its content sees it; `rest` is what follows its colon. -/
def enterNote (p : Place) (l : SourceLine) (rest : Text) : SourceLine :=
  let start := l.indent.toNat + (l.body.length - rest.length)
  let (shift, stop) := SourceLine.gap 0 start rest
  let indent := stop - start
  { l with text := rest, shift, indent := if indent < p.indent + 4 then indent + p.indent + 4 else indent }

/-- Whether the lines go on with a list whose markers end with a character. -/
def continuesList (p : Place) (m : ListMarker) (ls : List SourceLine) : Option ListMarker :=
  match ls with
  | [] => none
  | l :: _ =>
    if l.isOutside p || l.isCode p || interrupts p .list ls then none
    else
      match listMarker? l.body with
      | some n => if n.mark = m.mark && n.number.isSome == m.number.isSome then some n else none
      | none => none

/-! ## Containers -/

/-- The deepest nesting of containers. -/
def depthLimit : Nat := 20

/-- What reading the content of a container comes to: blocks, the lines after it, and whether no
blank line separates two blocks. -/
structure Content where
  blocks : List Block
  rest : List SourceLine
  tight : Bool

/-- The items of a list, the lines after it, and whether the list is tight. -/
structure Items where
  items : List (List Block)
  rest : List SourceLine
  tight : Bool

mutual

/-- Reads blocks up to the first line that lies outside; `gapped` says whether a blank line came
before, `tight` is the answer if there are no more blocks. -/
def readBlocks (p : Place) (gapped tight : Bool) : Nat → List SourceLine → Content
  | 0, ls => ⟨[], ls, tight⟩
  | fuel + 1, ls =>
    match ls.dropWhile SourceLine.isEmpty with
    | [] => ⟨[], [], tight⟩
    | l :: rest =>
      if l.isOutside p then ⟨[], l :: rest, tight⟩
      else if depthLimit ≤ p.depth then ⟨[], [], tight⟩
      else
        let (b?, after) := readBlock p fuel l rest
        let used := (l :: rest).length - after.length
        let gappedEnd := gapped || SourceLine.endsEmpty (l :: rest) used
        let nextEmpty := (after.head?.map SourceLine.isEmpty).getD false
        let more := readBlocks p (gappedEnd || nextEmpty) (!gapped) fuel
          (if nextEmpty then after.drop 1 else after)
        ⟨b?.toList ++ more.blocks, more.rest, more.tight⟩

/-- Reads the block at the front of the lines. -/
def readBlock (p : Place) (fuel : Nat) (l : SourceLine) (rest : List SourceLine) :
    Option Block × List SourceLine :=
  match fuel with
  | 0 => (none, rest)
  | fuel + 1 =>
    match frontMatter? p (l :: rest) with
    | some after => (some .frontMatter, after)
    | none =>
      match table? p (l :: rest) with
      | some (b, after) => (some b, after)
      | none =>
        if l.isCode p then
          let (b, after) := codeAt p (l :: rest)
          (some b, after)
        else
          match fenceRun? l.body with
          | some (mark, width, info) =>
            let (b, after) := fenceAt p mark width info l rest
            (some b, after)
          | none =>
            if l.body.head? = some '>' then
              let first := enterQuote l
              let lines := quoteLines p (!first.isEmpty) rest
              let inner := readBlocks ⟨0, p.listIndent, p.depth + 1⟩ false true fuel (first :: lines)
              (some (.quote inner.blocks), rest.drop (lines.length - inner.rest.length))
            else if isBreak l.body then (some .thematicBreak, rest)
            else
              match (if startsItem p .container l then listMarker? l.body else none) with
              | some m =>
                let list := readItems p m false fuel l rest
                let items := if list.tight then list.items.map (·.map Block.tighten) else list.items
                (some (.list m.number items), list.rest)
              | none =>
                match noteStart? l.body with
                | some (label, body) =>
                  let inner := readBlocks { p with indent := p.indent + 4, depth := p.depth + 1 }
                    false true fuel (enterNote p l body :: rest)
                  (some (.note label inner.blocks), inner.rest)
                | none =>
                  match definition? p (l :: rest) with
                  | some (b, after) => (some b, after)
                  | none =>
                    match html? p (l :: rest) with
                    | some (b, after) => (some b, after)
                    | none =>
                      match marked? p l rest with
                      | some (b, after) => (some b, after)
                      | none =>
                        let (b, after) := paragraphAt p l rest
                        (some b, after)

/-- Reads the items of a list; `gapped` says whether a blank line ends the item before. -/
def readItems (p : Place) (m : ListMarker) (gapped : Bool) (fuel : Nat) (l : SourceLine)
    (rest : List SourceLine) : Items :=
  match fuel with
  | 0 => ⟨[], rest, true⟩
  | fuel + 1 =>
    let (first, indent) := enterItem m l
    let nextEmpty := (rest.head?.map SourceLine.isEmpty).getD true
    let inner : Content :=
      if first.isEmpty && nextEmpty then ⟨[], rest.drop 1, true⟩
      else readBlocks ⟨indent, some p.indent, p.depth + 2⟩ false true fuel (first :: rest)
    let used := (l :: rest).length - inner.rest.length
    let tight := inner.tight && !gapped
    let gappedEnd := 1 < used && SourceLine.endsEmpty (l :: rest) used
    match continuesList p m inner.rest, inner.rest with
    | some next, l' :: rest' =>
      let more := readItems p next gappedEnd fuel l' rest'
      ⟨inner.blocks :: more.items, more.rest, tight && more.tight⟩
    | _, _ => ⟨[inner.blocks], inner.rest, tight⟩

end

/-- The text with line ends and characters as markdown wants them. -/
def normalised (t : Text) : Text := (plainEnds t).map fun c => if c = '\x00' then '\uFFFD' else c

/-- Reads the blocks of a text. -/
def Block.ofText (t : Text) : List Block :=
  let ls := SourceLine.ofText (normalised t)
  (readBlocks ⟨0, none, 0⟩ false true (3 * ls.length + 100) ls).blocks

end Literate.Markdown

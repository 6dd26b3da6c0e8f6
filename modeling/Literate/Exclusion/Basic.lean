import Literate.Exclusion.Unit

/-!
# Exclusion

Removes what its markers exclude from a target and keeps the number of every line that
stays, so that positions in the whole document remain valid.

* A marked block goes, together with the output region attached to it.
* A paragraph goes when its first line has the paragraph marker, a list when its first line has the
  list marker, an item when it has the item marker or a bare one, a single line when it has a bare
  one.
* The markers of whatever stays are stripped, for both targets.
* Headings, breaks and the bodies of blocks are left alone.
* No two blank lines are left where something was removed.
-/

namespace Literate

open Text

namespace ProseUnit

/-- The bare-marked lines.  Model of `exclusion.ExclusionFilter._filter_lines`. -/
def bareLines (target : Target) (es : List Entry) : List Entry :=
  es.filter fun e => Marker.has target .bare e.text

/-- Whether an item goes by its own marker. -/
def isMarkedItem (target : Target) (e : Entry) : Bool :=
  Marker.has target .item e.text || Marker.has target .bare e.text

/-- The lines of excluded items.  `hidden?` is the indentation of the excluded item that holds the
current line; it ends at the next item that is not indented further.  Model of
`exclusion.ExclusionFilter._item_extent` for all items of a list. -/
def itemLines (target : Target) (hidden? : Option Nat) : List Entry → List Entry
  | [] => []
  | e :: rest =>
    if LineKind.isItem e.text then
      let indent := LineKind.indentation e.text
      let inside := match hidden? with
        | none => false
        | some outer => outer < indent
      if inside then e :: itemLines target hidden? rest
      else if isMarkedItem target e then e :: itemLines target (some indent) rest
      else itemLines target none rest
    else if hidden?.isSome then e :: itemLines target hidden? rest
    else itemLines target hidden? rest

/-- Whether the first line of the unit carries the marker of a scope. -/
def isMarkedWhole (target : Target) (scope : Scope) (u : ProseUnit) : Bool :=
  match u.entries with
  | [] => false
  | e :: _ => Marker.has target scope e.text

/-- The lines of the unit that are excluded.  Model of `exclusion.ExclusionFilter._filter_paragraph`
and `_filter_list`. -/
def excluded (target : Target) (u : ProseUnit) : List Entry :=
  match u.kind with
  | .paragraph =>
    if u.isMarkedWhole target .paragraph then u.entries else bareLines target u.entries
  | .list =>
    if u.isMarkedWhole target .list then u.entries
    else itemLines target none u.entries ++ bareLines target u.entries

end ProseUnit

namespace Exclusion

/-- The numbers from `first` to `last`. -/
def range (first last : Nat) : List Nat := List.range' first (last + 1 - first)

/-- The lines that go with an excluded block: its own and those of its output.  Model of
`exclusion.ExclusionFilter._filter_blocks`. -/
def blockLines (o : Outline) (lines : List Line) (b : Block) : List Nat :=
  range b.startLine b.endLine ++
    match o.attachedOutput? lines b with
    | none => []
    | some r => range r.startLine r.endLine

/-- The numbers of the excluded lines.  Model of `exclusion.ExclusionFilter.run` up to what it
collects. -/
def dropped (o : Outline) (target : Target) (lines : List Line) : List Nat :=
  (o.blocks.filter (·.isExcludedFrom target)).flatMap (blockLines o lines) ++
    (Prose.units o (Entry.numbered 1 lines)).flatMap fun u =>
      (u.excluded target).map Entry.number

/-- An opening fence without markers. -/
def cleanOpener (l : Line) : Line :=
  match Fence.ofLine? l with
  | none => l
  | some f =>
    if (Marker.find f.rest).isEmpty then l
    else trimEnd (List.replicate f.indent ' ' ++ f.marker ++ Marker.strip f.rest)

/-- What a line that stays looks like. -/
def clean (o : Outline) (e : Entry) : Line :=
  if Prose.isProse o e then Marker.strip e.text
  else if o.blocks.any (·.startLine == e.number) then cleanOpener e.text
  else e.text

/-- The lines that stay.  A blank line is dropped when something was removed right before it
(`gap`) and what was kept last is blank or nothing (`afterBlank`).  Model of
`exclusion.ExclusionFilter._collect`. -/
def collect (isDropped : Entry → Bool) (cleaned : Entry → Line) (gap afterBlank : Bool) :
    List Entry → List Entry
  | [] => []
  | e :: rest =>
    if isDropped e then collect isDropped cleaned true afterBlank rest
    else
      let text := cleaned e
      if gap && allBlank text && afterBlank then collect isDropped cleaned false afterBlank rest
      else ⟨e.number, text⟩ :: collect isDropped cleaned false (allBlank text) rest

/-- The lines of a document that are kept for a target, with their numbers in the document. -/
def keptLines (o : Outline) (target : Target) (lines : List Line) : List Entry :=
  let gone := dropped o target lines
  collect (fun e => gone.contains e.number) (clean o) false true (Entry.numbered 1 lines)

/-- Kept lines put together with the line ends of the document: carriage return and newline if it
has any, and a last line end if it has one.  Model of `exclusion.join_lines`. -/
def joinKept (document : Text) (kept : List Entry) : Text :=
  let newline := if occursIn ['\r', '\n'] document then ['\r', '\n'] else ['\n']
  let text := join newline (kept.map Entry.text)
  if !text.isEmpty && document.getLast? == some '\n' then text ++ newline else text

end Exclusion

/-- The kept lines of a document.  Model of `exclusion.exclude_lines`. -/
def keptLines (t : Text) (target : Target) : Except ParseError (List Entry) :=
  match Outline.parse t with
  | .error e => .error e
  | .ok o => .ok (Exclusion.keptLines o target (lines t))

/-- The document without what is excluded from a target.  Model of `exclusion.exclude`. -/
def exclude (t : Text) (target : Target) : Except ParseError Text :=
  match keptLines t target with
  | .error e => .error e
  | .ok kept => .ok (Exclusion.joinKept t kept)

end Literate

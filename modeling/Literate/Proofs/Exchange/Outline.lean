import Mathlib
import Literate.Outline.Scan
import Literate.Proofs.Exchange.Line

/-!
# Outlines with the two symbols exchanged

The scanner reads the counterpart of a line as it reads the line: it moves to the counterpart of the
same state, finishes the counterpart of the same item and fails at the same line.  So the outline
has the same records and slides at the same lines, and each block is hidden in a target when it was
hidden in the other one.

* `Scan.exchange`, `Item.exchange`, `Outline.exchange`: states, items and outlines with the symbols
  exchanged.
* `Scan.step_exchange`: one line is read alike.
* `Scan.run_exchange`, `Scan.finish_exchange`: so are all of them.
* `Outline.parse_exchange`: the outline of the text.
-/

namespace Literate

open Text

/-! ## States and items -/

/-- The paragraph with its lines exchanged. -/
def Paragraph.exchange (p : Paragraph) : Paragraph := { p with lines := p.lines.map Text.exchange }

/-- The mode with its lines exchanged. -/
def Mode.exchange : Mode → Mode
  | prose open? => prose (open?.map Paragraph.exchange)
  | fenced startLine opener body => fenced startLine opener.exchange (body.map Text.exchange)

/-- The state of the scanner with its texts exchanged. -/
def Scan.exchange (s : Scan) : Scan := ⟨s.count, s.mode.exchange, s.title.map Text.exchange⟩

/-- The block with its texts exchanged, hidden in each target when it was hidden in the other. -/
def Block.exchange (b : Block) : Block :=
  { b with info := b.info.exchange, body := b.body.map Text.exchange }

/-- The record with its texts exchanged. -/
def Record.exchange : Record → Record
  | block b => block b.exchange
  | output r => output r

/-- The slide with its title exchanged. -/
def Slide.exchange (s : Slide) : Slide := { s with title := Text.exchange s.title }

/-- The item with its texts exchanged. -/
def Item.exchange : Item → Item
  | record r => record r.exchange
  | slide s => slide s.exchange

/-- The outline with its texts exchanged. -/
def Outline.exchange (o : Outline) : Outline where
  lineCount := o.lineCount
  records := o.records.map Record.exchange
  slides := o.slides.map Slide.exchange

namespace Item

theorem filterMap_record?_exchange (items : List Item) :
    (items.map exchange).filterMap record? = (items.filterMap record?).map Record.exchange := by
  rw [List.filterMap_map, List.map_filterMap]
  exact List.filterMap_congr fun i _ => by cases i <;> rfl

theorem filterMap_slide?_exchange (items : List Item) :
    (items.map exchange).filterMap slide? = (items.filterMap slide?).map Slide.exchange := by
  rw [List.filterMap_map, List.map_filterMap]
  exact List.filterMap_congr fun i _ => by cases i <;> rfl

end Item

theorem Paragraph.title_exchange (p : Paragraph) : p.exchange.title = Text.exchange p.title := by
  have htrim : ∀ l ∈ p.lines, trim (Text.exchange l) = Text.exchange (trim l) :=
    fun l _ => trim_exchange l
  rw [title, title, ← join_exchange (by decide), exchange, List.map_map, List.map_map]
  exact congrArg (join [' ']) (List.map_congr_left htrim)

/-! ## The scanner -/

namespace Scan

theorem isRepeat_exchange (l : Line) : isRepeat (Text.exchange l) = isRepeat l := by
  rw [isRepeat, isRepeat, trim_exchange, Bool.eq_iff_iff, beq_iff_eq, beq_iff_eq]
  exact exchange_eq_iff (by decide)

theorem dedent_exchange (n : ℕ) (l : Line) :
    dedent n (Text.exchange l) = Text.exchange (dedent n l) := by
  induction l generalizing n with
  | nil => cases n <;> rfl
  | cons c l ih =>
    cases n with
    | zero => rfl
    | succ n =>
      simp only [exchange_cons, dedent, exchangeChar_eq_iff (show exchangeChar ' ' = ' ' by decide)]
      split_ifs
      · exact ih n
      · rfl

/-- Recorded output stays recorded output, a block stays a block. -/
theorem recordOf_exchange (startLine endLine : ℕ) (opener : Fence) (body : List Line) :
    recordOf startLine endLine opener.exchange (body.map Text.exchange) =
      (recordOf startLine endLine opener body).exchange := by
  unfold recordOf
  rw [Fence.info_exchange]
  simp only [exchange_eq_iff (show Text.exchange outputInfo = outputInfo by decide)]
  split_ifs
  · rfl
  · have hbody : (body.map Text.exchange).map (dedent opener.exchange.indent) =
        (body.map (dedent opener.indent)).map Text.exchange := by
      rw [List.map_map, List.map_map]
      exact List.map_congr_left fun l _ => dedent_exchange opener.indent l
    rw [hbody, Info.parse_exchange]
    rfl

variable (s : Scan) (n : ℕ) (open? : Option Paragraph) (l : Line)

theorem skip_exchange :
    s.exchange.skip n (open?.map Paragraph.exchange) =
      ((s.skip n open?).1.exchange, (s.skip n open?).2.map Item.exchange) := rfl

theorem slide_exchange (sl : Slide) :
    slide n sl.exchange = ((slide n sl).1.exchange, (slide n sl).2.map Item.exchange) := rfl

theorem stepText_exchange :
    s.exchange.stepText n (open?.map Paragraph.exchange) (Text.exchange l) =
      ((s.stepText n open? l).1.exchange, (s.stepText n open? l).2.map Item.exchange) := by
  unfold stepText
  simp only [LineKind.isBreak_exchange, LineKind.headingTitle?_exchange, LineKind.isHeading_exchange,
    LineKind.isQuote_exchange, LineKind.isItem_exchange, isRepeat_exchange]
  cases LineKind.isBreak l with
  | true =>
    have htitle : (if isRepeat l = true then s.exchange.title.getD [] else []) =
        Text.exchange (if isRepeat l = true then s.title.getD [] else []) := by
      split_ifs
      · exact getD_exchange s.title
      · rfl
    simp only [if_true, htitle]
    exact slide_exchange n ⟨n, _, .break⟩
  | false =>
    simp only [Bool.false_eq_true, if_false]
    cases LineKind.headingTitle? l with
    | some title => exact slide_exchange n ⟨n, title, .heading⟩
    | none =>
      simp only [Option.map_none]
      split_ifs
      · exact skip_exchange s n none
      · cases open? with
        | none => rfl
        | some p =>
          rw [← skip_exchange s n]
          simp [Paragraph.exchange]

theorem stepProse_exchange :
    s.exchange.stepProse n (open?.map Paragraph.exchange) (Text.exchange l) =
      ((s.stepProse n open? l).1.exchange, (s.stepProse n open? l).2.map Item.exchange) := by
  have htext := stepText_exchange s n open? l
  unfold stepProse
  rw [Fence.ofLine?_exchange, allBlank_exchange]
  cases Fence.ofLine? l with
  | some f => rfl
  | none =>
    cases allBlank l with
    | true => exact skip_exchange s n none
    | false =>
      cases open? with
      | none => exact htext
      | some p =>
        have hunder1 : LineKind.isUnderline1 (Text.exchange l) = LineKind.isUnderline1 l :=
          LineKind.isRunOf_exchange l (by decide)
        have hunder2 : LineKind.isUnderline2 (Text.exchange l) = LineKind.isUnderline2 l :=
          LineKind.isRunOf_exchange l (by decide)
        simp only [Bool.false_eq_true, if_false]
        simp only [Option.map_some, hunder1, hunder2, Paragraph.title_exchange,
          show p.exchange.inList = p.inList from rfl]
        split_ifs
        · exact htext
        · exact slide_exchange n ⟨p.startLine, p.title, .heading⟩
        · exact skip_exchange s n none
        · exact htext

theorem stepFenced_exchange (startLine : ℕ) (opener : Fence) (body : List Line) :
    s.exchange.stepFenced n startLine opener.exchange (body.map Text.exchange) (Text.exchange l) =
      (s.stepFenced n startLine opener body l).map
        (Prod.map exchange (Option.map Item.exchange)) := by
  have hinside : (⟨n, .fenced startLine opener.exchange
      (body.map Text.exchange ++ [Text.exchange l]), s.exchange.title⟩ : Scan) =
        exchange ⟨n, .fenced startLine opener (body ++ [l]), s.title⟩ := by
    simp [exchange, Mode.exchange]
  unfold stepFenced
  simp only [Fence.ofLine?_exchange, hinside]
  cases Fence.ofLine? l with
  | none => rfl
  | some f =>
    simp only [Option.map_some, Fence.info_exchange, isEmpty_exchange,
      show opener.exchange.closes f.exchange = opener.closes f from rfl, recordOf_exchange]
    split_ifs <;> rfl

/-- **One line.**  The counterpart of a line is read as the line is. -/
theorem step_exchange :
    s.exchange.step (Text.exchange l) =
      (s.step l).map (Prod.map exchange (Option.map Item.exchange)) := by
  obtain ⟨count, mode, title⟩ := s
  cases mode with
  | prose open? =>
    exact congrArg Except.ok (stepProse_exchange ⟨count, _, title⟩ (count + 1) open? l)
  | fenced startLine opener body =>
    exact stepFenced_exchange ⟨count, _, title⟩ (count + 1) l startLine opener body

/-- **All lines.**  The counterparts of the lines finish the counterparts of the items, or fail as
the lines do. -/
theorem run_exchange (ls : List Line) :
    s.exchange.run (ls.map Text.exchange) =
      (s.run ls).map (Prod.map exchange (List.map Item.exchange)) := by
  induction ls generalizing s with
  | nil => rfl
  | cons l ls ih =>
    rw [List.map_cons, run, run, step_exchange]
    cases s.step l with
    | error e => rfl
    | ok found =>
      obtain ⟨s', item?⟩ := found
      simp only [Except.map, Prod.map]
      rw [ih s']
      cases s'.run ls with
      | error e => rfl
      | ok rest => cases item? <;> rfl

theorem finish_exchange (ls : List Line) :
    s.exchange.finish (ls.map Text.exchange) = (s.finish ls).map (List.map Item.exchange) := by
  rw [finish, finish, run_exchange]
  cases s.run ls with
  | error e => rfl
  | ok found =>
    obtain ⟨⟨count, mode, title⟩, items⟩ := found
    cases mode <;> rfl

end Scan

/-! ## The outline -/

namespace Outline

theorem firstContent?_exchange (ls : List Line) :
    firstContent? (ls.map Text.exchange) = firstContent? ls := by
  rw [firstContent?, firstContent?, List.findIdx?_map]
  congr 2
  funext l
  exact congrArg Bool.not (allBlank_exchange l)

theorem withImplicit_exchange (ls : List Line) (slides : List Slide) :
    withImplicit (ls.map Text.exchange) (slides.map Slide.exchange) =
      (withImplicit ls slides).map Slide.exchange := by
  rw [withImplicit, withImplicit, firstContent?_exchange]
  cases firstContent? ls with
  | none => rfl
  | some first =>
    cases slides with
    | nil => rfl
    | cons sl slides =>
      simp only [List.map_cons, show sl.exchange.startLine = sl.startLine from rfl]
      split_ifs <;> rfl

theorem ofLines_exchange (ls : List Line) :
    ofLines (ls.map Text.exchange) = (ofLines ls).map exchange := by
  have hfinish : Scan.start.finish (ls.map Text.exchange) =
      (Scan.start.finish ls).map (List.map Item.exchange) := Scan.finish_exchange Scan.start ls
  rw [ofLines, ofLines, hfinish]
  cases Scan.start.finish ls with
  | error e => rfl
  | ok items =>
    simp only [Except.map, exchange, List.length_map, Item.filterMap_record?_exchange,
      Item.filterMap_slide?_exchange, withImplicit_exchange]

/-- **Outlines.**  The text with the symbols exchanged has the outline with the symbols exchanged,
and none for the same reason when the text has none. -/
theorem parse_exchange (t : Text) : parse (Text.exchange t) = (parse t).map exchange := by
  rw [parse, lines_exchange, ofLines_exchange, parse]

variable (o : Outline)

theorem blocks_exchange : o.exchange.blocks = o.blocks.map Block.exchange := by
  rw [blocks, blocks, exchange, List.filterMap_map, List.map_filterMap]
  exact List.filterMap_congr fun r _ => by cases r <;> rfl

theorem outputs_exchange : o.exchange.outputs = o.outputs := by
  rw [outputs, outputs, exchange, List.filterMap_map]
  exact List.filterMap_congr fun r _ => by cases r <;> rfl

theorem isFenced_exchange (line : ℕ) : o.exchange.isFenced line = o.isFenced line := by
  rw [isFenced, isFenced, exchange, List.any_map]
  congr 1
  funext r
  cases r <;> rfl

theorem skipBlanks_exchange (line : ℕ) (ls : List Line) :
    skipBlanks line (ls.map Text.exchange) = skipBlanks line ls := by
  induction ls generalizing line with
  | nil => rfl
  | cons l ls ih =>
    rw [List.map_cons, skipBlanks, skipBlanks, allBlank_exchange, ih]

theorem attachedOutput?_exchange (ls : List Line) (b : Block) :
    o.exchange.attachedOutput? (ls.map Text.exchange) b.exchange = o.attachedOutput? ls b := by
  rw [attachedOutput?, attachedOutput?, outputAt?, outputAt?, outputs_exchange, ← List.map_drop,
    skipBlanks_exchange]
  rfl

end Outline

end Literate

import Mathlib
import Literate.Exclusion.Basic
import Literate.Proofs.Exchange.Outline

/-!
# The two targets are treated alike

A text with the two symbols exchanged says of each target what the text said of the other.  So what
is kept of it for a target is what was kept of the text for the other target, at the same lines and
with the symbols exchanged; and a text that cannot be read fails at the same line either way.

* `ProseUnit.exchange`: a unit of prose with its lines exchanged; `Prose.units_exchange` says that
  the prose falls into the same units.
* `Exclusion.dropped_exchange`: the same lines go.
* `Exclusion.clean_exchange`, `Exclusion.collect_exchange`: what stays of a line, and which blank
  lines go with it.
* `keptLines_exchange`: the lines kept and the document written.
-/

namespace Literate

open Text

/-! ## Prose units -/

/-- The line with its text exchanged, at its number. -/
def Entry.exchange (e : Entry) : Entry := ⟨e.number, Text.exchange e.text⟩

@[simp] theorem Entry.text_exchange (e : Entry) : e.exchange.text = Text.exchange e.text := rfl

@[simp] theorem Entry.number_exchange (e : Entry) : e.exchange.number = e.number := rfl

theorem Entry.numbered_exchange (n : ℕ) (ls : List Line) :
    numbered n (ls.map Text.exchange) = (numbered n ls).map exchange := by
  induction ls generalizing n with
  | nil => rfl
  | cons l ls ih => exact congrArg (⟨n, Text.exchange l⟩ :: ·) (ih (n + 1))

/-- The unit with its lines exchanged. -/
def ProseUnit.exchange (u : ProseUnit) : ProseUnit := ⟨u.kind, u.entries.map Entry.exchange⟩

namespace Gathering

/-- The unit being gathered with its lines exchanged. -/
def exchange : Gathering → Gathering
  | idle => idle
  | paragraph entries => paragraph (entries.map Entry.exchange)
  | list entries blanks => list (entries.map Entry.exchange) (blanks.map Entry.exchange)

variable (g : Gathering) (e : Entry)

theorem close_exchange : g.exchange.close = g.close.map ProseUnit.exchange := by cases g <;> rfl

theorem start_exchange : start e.exchange = (start e).exchange := by
  rw [start, start, Entry.text_exchange, LineKind.isItem_exchange]
  split_ifs <;> rfl

theorem stepProse_exchange :
    g.exchange.stepProse e.exchange =
      ((g.stepProse e).1.exchange, (g.stepProse e).2.map ProseUnit.exchange) := by
  match g with
  | idle => exact Prod.ext (start_exchange e) rfl
  | paragraph es =>
    simp only [exchange, stepProse, Entry.text_exchange, LineKind.isItem_exchange, start_exchange]
    split_ifs
    · rfl
    · simp
  | list es [] => simp [stepProse, exchange]
  | list es (b :: blanks) =>
    simp only [exchange, List.map_cons, stepProse, Entry.text_exchange, LineKind.isItem_exchange,
      LineKind.indentation_exchange, start_exchange]
    split_ifs
    · simp
    · rfl

theorem stepOther_exchange (isFenced : Bool) :
    g.exchange.stepOther isFenced e.exchange =
      ((g.stepOther isFenced e).1.exchange, (g.stepOther isFenced e).2.map ProseUnit.exchange) := by
  cases g with
  | idle => rfl
  | paragraph es => rfl
  | list es blanks =>
    simp only [exchange, stepOther, Entry.text_exchange, allBlank_exchange]
    split_ifs
    · simp
    · rfl

end Gathering

namespace Prose

theorem isStructural_exchange (l : Line) : isStructural (Text.exchange l) = isStructural l := by
  have hunder : LineKind.isUnderline1 (Text.exchange l) = LineKind.isUnderline1 l :=
    LineKind.isRunOf_exchange l (by decide)
  rw [isStructural, isStructural, LineKind.isHeading_exchange, LineKind.isBreak_exchange, hunder]

variable (o : Outline)

theorem isProse_exchange (e : Entry) : isProse o.exchange e.exchange = isProse o e := by
  rw [isProse, isProse, Entry.number_exchange, Outline.isFenced_exchange, Entry.text_exchange,
    allBlank_exchange, isStructural_exchange]

theorem step_exchange (g : Gathering) (e : Entry) :
    step o.exchange g.exchange e.exchange =
      ((step o g e).1.exchange, (step o g e).2.map ProseUnit.exchange) := by
  rw [step, step, isProse_exchange, Entry.number_exchange, Outline.isFenced_exchange]
  split_ifs
  · exact g.stepProse_exchange e
  · exact g.stepOther_exchange e (o.isFenced e.number)

theorem unitsFrom_exchange (g : Gathering) (es : List Entry) :
    unitsFrom o.exchange g.exchange (es.map Entry.exchange) =
      (unitsFrom o g es).map ProseUnit.exchange := by
  induction es generalizing g with
  | nil => exact g.close_exchange
  | cons e es ih =>
    rw [List.map_cons, unitsFrom, unitsFrom, step_exchange]
    simp only [ih, List.map_append]

/-- The prose falls into the same units. -/
theorem units_exchange (es : List Entry) :
    units o.exchange (es.map Entry.exchange) = (units o es).map ProseUnit.exchange :=
  unitsFrom_exchange o .idle es

end Prose

namespace ProseUnit

variable (target : Target)

theorem bareLines_exchange (es : List Entry) :
    bareLines target.other (es.map Entry.exchange) =
      (bareLines target es).map Entry.exchange := by
  rw [bareLines, bareLines, List.filter_map]
  congr 2
  funext e
  exact Marker.has_exchange target .bare e.text

theorem itemLines_exchange (hidden? : Option ℕ) (es : List Entry) :
    itemLines target.other hidden? (es.map Entry.exchange) =
      (itemLines target hidden? es).map Entry.exchange := by
  induction es generalizing hidden? with
  | nil => rfl
  | cons e es ih =>
    have hmarked : isMarkedItem target.other e.exchange = isMarkedItem target e := by
      rw [isMarkedItem, isMarkedItem, Entry.text_exchange, Marker.has_exchange, Marker.has_exchange]
    rw [List.map_cons, itemLines, itemLines, hmarked, Entry.text_exchange, LineKind.isItem_exchange,
      LineKind.indentation_exchange]
    dsimp only
    split_ifs
    all_goals simp only [ih, List.map_cons]

theorem isMarkedWhole_exchange (scope : Scope) (u : ProseUnit) :
    u.exchange.isMarkedWhole target.other scope = u.isMarkedWhole target scope := by
  rw [isMarkedWhole, isMarkedWhole, exchange]
  cases u.entries with
  | nil => rfl
  | cons e es => exact Marker.has_exchange target scope e.text

/-- A unit gives up the same lines for the other target. -/
theorem excluded_exchange (u : ProseUnit) :
    u.exchange.excluded target.other = (u.excluded target).map Entry.exchange := by
  rw [excluded, excluded, isMarkedWhole_exchange, isMarkedWhole_exchange,
    show u.exchange.kind = u.kind from rfl,
    show u.exchange.entries = u.entries.map Entry.exchange from rfl]
  cases u.kind with
  | paragraph =>
    dsimp only
    split_ifs
    · rfl
    · exact bareLines_exchange target u.entries
  | list =>
    dsimp only
    split_ifs
    · rfl
    · rw [itemLines_exchange, bareLines_exchange, List.map_append]

end ProseUnit

/-! ## What goes and what stays -/

namespace Exclusion

variable (o : Outline)

theorem blockLines_exchange (ls : List Line) (b : Block) :
    blockLines o.exchange (ls.map Text.exchange) b.exchange = blockLines o ls b := by
  rw [blockLines, blockLines, Outline.attachedOutput?_exchange]
  rfl

/-- **What goes.**  The same lines go for the other target. -/
theorem dropped_exchange (target : Target) (ls : List Line) :
    dropped o.exchange target.other (ls.map Text.exchange) = dropped o target ls := by
  have hblocks : o.exchange.blocks.filter (·.isExcludedFrom target.other) =
      (o.blocks.filter (·.isExcludedFrom target)).map Block.exchange := by
    rw [Outline.blocks_exchange, List.filter_map]
    congr 2
    funext b
    exact b.info.isExcludedFrom_exchange target
  have hlines : ∀ b, blockLines o.exchange (ls.map Text.exchange) (Block.exchange b) =
      blockLines o ls b := blockLines_exchange o ls
  have hunits : ∀ u : ProseUnit, (u.exchange.excluded target.other).map Entry.number =
      (u.excluded target).map Entry.number := by
    intro u
    rw [ProseUnit.excluded_exchange, List.map_map]
    rfl
  rw [dropped, dropped, hblocks, Entry.numbered_exchange, Prose.units_exchange, List.flatMap_map,
    List.flatMap_map]
  simp only [hlines, hunits]

theorem cleanOpener_exchange (l : Line) :
    cleanOpener (Text.exchange l) = Text.exchange (cleanOpener l) := by
  unfold cleanOpener
  rw [Fence.ofLine?_exchange]
  cases Fence.ofLine? l with
  | none => rfl
  | some f =>
    have hrest : f.exchange.rest = Text.exchange f.rest := rfl
    simp only [Option.map_some, hrest, Marker.find_exchange, List.isEmpty_map]
    split_ifs
    · rfl
    · rw [Marker.strip_exchange, ← trimEnd_exchange, exchange_append, exchange_append,
        Fence.exchange_marker, exchange_replicate (by decide)]
      rfl

/-- What a line looks like that stays. -/
theorem clean_exchange (e : Entry) : clean o.exchange e.exchange = Text.exchange (clean o e) := by
  have hopens : o.exchange.blocks.any (·.startLine == e.exchange.number) =
      o.blocks.any (·.startLine == e.number) := by
    rw [Outline.blocks_exchange, List.any_map]
    rfl
  rw [clean, clean, Prose.isProse_exchange, hopens]
  split_ifs
  · exact Marker.strip_exchange e.text
  · exact cleanOpener_exchange e.text
  · rfl

/-- The same blank lines go with what is removed. -/
theorem collect_exchange {isDropped isDropped' : Entry → Bool} {cleaned cleaned' : Entry → Line}
    (hdropped : ∀ e, isDropped' (Entry.exchange e) = isDropped e)
    (hcleaned : ∀ e, cleaned' (Entry.exchange e) = Text.exchange (cleaned e))
    (gap afterBlank : Bool) (es : List Entry) :
    collect isDropped' cleaned' gap afterBlank (es.map Entry.exchange) =
      (collect isDropped cleaned gap afterBlank es).map Entry.exchange := by
  induction es generalizing gap afterBlank with
  | nil => rfl
  | cons e es ih =>
    rw [List.map_cons, collect, collect, hdropped, hcleaned]
    simp only [allBlank_exchange]
    split_ifs
    · exact ih true afterBlank
    · exact ih false afterBlank
    · exact congrArg _ (ih false _)

theorem keptLines_exchange (target : Target) (ls : List Line) :
    keptLines o.exchange target.other (ls.map Text.exchange) =
      (keptLines o target ls).map Entry.exchange := by
  rw [keptLines, keptLines, Entry.numbered_exchange]
  apply collect_exchange
  · intro e
    rw [dropped_exchange]
    rfl
  · exact clean_exchange o

theorem joinKept_exchange (t : Text) (kept : List Entry) :
    joinKept (Text.exchange t) (kept.map Entry.exchange) = Text.exchange (joinKept t kept) := by
  have htexts : (kept.map Entry.exchange).map Entry.text =
      (kept.map Entry.text).map Text.exchange := by
    rw [List.map_map, List.map_map]
    rfl
  have hlast : ((Text.exchange t).getLast? == some '\n') = (t.getLast? == some '\n') := by
    rw [← List.head?_reverse, ← exchange_reverse, head?_exchange_beq _ (by decide),
      List.head?_reverse]
  have hnewline : ∀ crlf : Bool, Text.exchange (if crlf then ['\r', '\n'] else ['\n']) =
      if crlf then ['\r', '\n'] else ['\n'] := by decide
  simp only [joinKept, occursIn_exchange (show Text.exchange ['\r', '\n'] = _ by decide), htexts,
    join_exchange (hnewline _), isEmpty_exchange, hlast]
  have hreturn : exchangeChar '\r' = '\r' := by decide
  have hend : exchangeChar '\n' = '\n' := by decide
  split_ifs <;> simp [hreturn, hend]

end Exclusion

/-! ## Documents -/

theorem keptLines_exchange (t : Text) (target : Target) :
    keptLines (Text.exchange t) target.other =
      (keptLines t target).map (List.map Entry.exchange) := by
  rw [keptLines, keptLines, Outline.parse_exchange, lines_exchange]
  cases Outline.parse t with
  | error e => rfl
  | ok o => exact congrArg Except.ok (Exclusion.keptLines_exchange o target (lines t))

/-- **The targets are treated alike.**  With the two symbols exchanged, the same lines of a text are
kept for the other target, each exchanged, and the document written is the one written before,
exchanged; a text that has no outline fails with the same error, at the same line, for both. -/
theorem exclude_exchange (t : Text) (target : Target) :
    exclude (Text.exchange t) target.other = (exclude t target).map Text.exchange ∧
      keptLines (Text.exchange t) target.other =
        (keptLines t target).map (List.map Entry.exchange) := by
  refine ⟨?_, keptLines_exchange t target⟩
  rw [exclude, exclude, keptLines_exchange]
  cases keptLines t target with
  | error e => rfl
  | ok kept => exact congrArg Except.ok (Exclusion.joinKept_exchange t kept)

end Literate

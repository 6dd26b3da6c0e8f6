import Mathlib
import Literate.Proofs.Edit
import Literate.Proofs.Recording.Preservation

/-!
# The other blocks of a document with recorded output

Output that is recorded below a block is none of another block's: only blank lines stand between a
block and its output, so no other block does.  Every block keeps the output it had, at the lines
where it is after the edit, and output of it would be recorded at the same place.

* `Cut.Follows.other_cases`: another block stands before the block or behind its output.
* `Cut.HasOutput`: a document with recorded output, its lines and what it is read to.
* `Cut.HasOutput.attachedOutput?_eq`, `Cut.HasOutput.attachedOutput?_before`,
  `Cut.HasOutput.attachedOutput?_after`: the outputs of the blocks afterwards.
* `Cut.HasOutput.recordingEdit_before`, `Cut.HasOutput.recordingEdit_after`: where output of another
  block is recorded afterwards.
-/

namespace Literate

open Text

/-! ## Lines that are not blank -/

/-- The opening fence of a record is no blank line. -/
theorem Reading.exists_content_of_lt {s t : Scan} {ls : List Line} {items : List Item} {r : Record}
    (h : Reading s ls t items) (hs : s.count = 0) (hr : Item.record r ∈ items) {n : ℕ}
    (hn : n < r.startLine) : ∃ l ∈ ls.drop n, allBlank l = false := by
  obtain ⟨pre, g, post, mid, before, after, rfl, hpre, rfl, -, -⟩ := h.record_inv hr
  have hcount : mid.count = pre.length := by rw [hpre.count_end]; omega
  rw [FencedLines.startLine_record, hcount] at hn
  refine ⟨g.opener, ?_, Fence.allBlank_eq_false_of_ofLine? g.opens⟩
  rw [List.append_assoc, List.drop_append_of_le_length (by omega), FencedLines.lines]
  simp

namespace Outline

theorem startLine_le_of_mem_outputs {t : Text} {o : Outline} (ho : Outline.parse t = .ok o)
    {q : OutputRegion} (hq : q ∈ o.outputs) : q.startLine ≤ q.endLine := by
  obtain ⟨last, items, hread, rfl⟩ := parse_eq_ok_iff.mp ho
  exact hread.ordered.proper _ (mem_records_iff.mp (mem_outputs_iff.mp hq))

theorem startLine_le_of_mem_blocks {t : Text} {o : Outline} (ho : Outline.parse t = .ok o)
    {b : Block} (hb : b ∈ o.blocks) : b.startLine ≤ b.endLine := by
  obtain ⟨last, items, hread, rfl⟩ := parse_eq_ok_iff.mp ho
  exact hread.ordered.proper _ (mem_records_iff.mp (mem_blocks_iff.mp hb))

/-- Two blocks of a document are the same or lie apart. -/
theorem blocks_trichotomy {t : Text} {o : Outline} (ho : Outline.parse t = .ok o) {b c : Block}
    (hb : b ∈ o.blocks) (hc : c ∈ o.blocks) :
    b = c ∨ b.endLine < c.startLine ∨ c.endLine < b.startLine := by
  obtain ⟨last, items, hread, rfl⟩ := parse_eq_ok_iff.mp ho
  have h := hread.ordered.trichotomy (mem_records_iff.mp (mem_blocks_iff.mp hb))
    (mem_records_iff.mp (mem_blocks_iff.mp hc))
  rwa [Item.record.injEq, Record.block.injEq] at h

end Outline

/-- A block that its author named has its name wherever it stands. -/
theorem Block.name_relocate (f : ℕ → ℕ) {b : Block} (h : b.info.name.isSome) :
    (b.relocate f).name = b.name := by
  obtain ⟨name, hname⟩ := Option.isSome_iff_exists.mp h
  simp [Block.name, Block.relocate, hname]

/-! ## The document after the edit -/

namespace Cut

variable {t t' : Text} {o o' : Outline} {items : List Item} {b c : Block}
  {attached? : Option OutputRegion}

/-- Another block stands before the block, or behind its output. -/
theorem Follows.other_cases {k : Cut (lines t) items} (hk : k.Follows b attached?)
    (hc : Item.record (.block c) ∈ items) (hne : c ≠ b) :
    (Item.record (.block c) ∈ k.before ∧ c.endLine < b.startLine) ∨
      Item.record (.block c) ∈ k.after := by
  rw [k.items_eq, List.mem_append, List.mem_append] at hc
  rcases hc with (hc | hc) | hc
  · left
    refine ⟨hc, ?_⟩
    rcases k.ordered_before.trichotomy hc hk.block_mem with heq | hlt | hlt
    · cases heq
      exact absurd rfl hne
    · exact hlt
    · -- only blank lines follow the block before the cut
      exfalso
      obtain ⟨l, hl, hblank⟩ := k.reads_front.exists_content_of_lt rfl hc hlt
      rw [hk.blank l hl] at hblank
      cases hblank
  · rw [hk.between_eq] at hc
    cases attached? <;> simp at hc
  · exact .inr hc

/-- The first line of the region in the document with the output is the one behind this. -/
def regionStart (k : Cut (lines t) items) (attached? : Option OutputRegion) : ℕ :=
  k.front.length + (lines (gap attached?)).length

/-- The lines of the document with the output. -/
def linesWith (k : Cut (lines t) items) (attached? : Option OutputRegion) (out : Output) :
    List Line :=
  k.front ++ (lines (gap attached?) ++ out.fencedLines.lines) ++ k.back

/-- Where a line is in the document with the output. -/
def movedWith (k : Cut (lines t) items) (attached? : Option OutputRegion) (out : Output) :
    ℕ → ℕ :=
  (k.edit (gap attached? ++ out.region)).moved (lines t).length (k.linesWith attached? out).length

/-- The items of the document with the output: those of before, with the region in the middle. -/
def itemsWith (k : Cut (lines t) items) (attached? : Option OutputRegion) (out : Output) :
    List Item :=
  k.before ++ [.record (.output ⟨k.regionStart attached? + 1,
      k.regionStart attached? + out.fencedLines.height⟩)] ++
    k.after.map (Item.relocate (k.movedWith attached? out))

/-- The document `t'`, read to `o'`, is `t` with output in the middle of the cut. -/
structure HasOutput (k : Cut (lines t) items) (attached? : Option OutputRegion) (out : Output)
    (t' : Text) (o' : Outline) : Prop where
  applied : (k.edit (gap attached? ++ out.region)).apply t = .ok t'
  withEnds_eq : withEnds t' = ((withEnds t).take k.front.length).map Edit.terminated ++
    withEnds (gap attached? ++ out.region) ++ (withEnds t).drop (k.front.length + k.middle.length)
  lines_eq : lines t' = k.linesWith attached? out
  parsed : Outline.parse t' = .ok o'
  records_eq : o'.records = (k.itemsWith attached? out).filterMap Item.record?

/-- Output can be put in the middle of every cut. -/
theorem exists_hasOutput (k : Cut (lines t) items) (attached? : Option OutputRegion)
    (out : Output) : ∃ t' o', k.HasOutput attached? out t' o' := by
  have hblank : ∀ l ∈ lines (gap attached?), allBlank l = true :=
    fun l hl => blank_of_mem_lines_gap hl
  obtain ⟨t', happly, hends, hlines⟩ :=
    k.withEnds_replaced (isWhole_gap.append out.isWhole_region)
  rw [lines_append isWhole_gap, Output.lines_region, ← linesWith] at hlines
  obtain ⟨last, hread⟩ := k.reads_replaced (gap attached? ++ out.region) hblank out.fencedLines
  rw [Output.record_fencedLines, ← linesWith] at hread
  have hstart : (k.edit (gap attached? ++ out.region)).startLine.toNat - 1 = k.front.length := by
    simp only [edit]
    omega
  have hend : (k.edit (gap attached? ++ out.region)).endLine.toNat - 1 =
      k.front.length + k.middle.length := by
    simp only [edit]
    omega
  rw [hstart, hend] at hends
  have hparse := hread
  rw [← hlines] at hparse
  exact ⟨t', _, happly, hends, hlines, Outline.parse_eq_ok_iff.mpr ⟨last, _, hparse, rfl⟩,
    by rw [itemsWith, movedWith, ← hlines]; rfl⟩

theorem movedWith_of_le (k : Cut (lines t) items) (attached? : Option OutputRegion) (out : Output)
    {n : ℕ} (hn : n ≤ k.front.length) : k.movedWith attached? out n = n :=
  k.moved_of_le _ _ hn

theorem movedWith_of_lt (k : Cut (lines t) items) (attached? : Option OutputRegion) (out : Output)
    {n : ℕ} (hn : k.front.length + k.middle.length < n) :
    k.movedWith attached? out n =
      n + ((lines (gap attached?)).length + out.fencedLines.height) - k.middle.length := by
  rw [movedWith, k.moved_of_lt _ _ hn, k.length_eq, linesWith]
  simp only [List.length_append, FencedLines.length_lines]
  omega

namespace HasOutput

variable {k : Cut (lines t) items} {out : Output}

/-- The output regions of the document with the output. -/
theorem mem_outputs_iff (h : k.HasOutput attached? out t' o') {q : OutputRegion} :
    q ∈ o'.outputs ↔ Item.record (.output q) ∈ k.before ∨
      q = ⟨k.regionStart attached? + 1, k.regionStart attached? + out.fencedLines.height⟩ ∨
        ∃ p, Item.record (.output p) ∈ k.after ∧ p.relocate (k.movedWith attached? out) = q := by
  rw [Outline.outputs, Outline.mem_outputs_iff, h.records_eq, Outline.mem_records_iff, itemsWith,
    List.mem_append, List.mem_append, or_assoc, List.mem_singleton, List.mem_map]
  simp only [Item.record.injEq, Record.output.injEq]
  refine or_congr_right (or_congr_right ⟨?_, ?_⟩)
  · rintro ⟨(_ | p) | _, hp, heq⟩ <;> simp [Item.relocate, Record.relocate] at heq
    exact ⟨p, hp, heq⟩
  · rintro ⟨p, hp, rfl⟩
    exact ⟨_, hp, rfl⟩

/-- The blocks are those of before; only their lines move. -/
theorem blocks_eq (h : k.HasOutput attached? out t' o') (hk : k.Follows b attached?)
    (ho : o.records = items.filterMap Item.record?) :
    o'.blocks = o.blocks.map (Block.relocate (k.movedWith attached? out)) := by
  simp only [Outline.blocks, h.records_eq, ho, List.filterMap_filterMap]
  refine hk.filterMap_moved (k.map_moved_before _ _) _ ?_ (fun _ => rfl)
  intro i
  rcases i with (_ | _) | _ <;> rfl

/-- The block is the first of its name as before. -/
theorem findBlock?_eq (h : k.HasOutput attached? out t' o') (hk : k.Follows b attached?)
    (ho : o.records = items.filterMap Item.record?) {name : Text}
    (hb : o.findBlock? name = some b) : o'.findBlock? name = some b := by
  rw [Outline.findBlock?, Outline.blocks, h.records_eq, itemsWith, List.append_assoc]
  exact hk.find?_moved (by rw [← ho]; exact hb) _

/-- Blocks that their author named are found by their names as before. -/
theorem findBlock?_named (h : k.HasOutput attached? out t' o') (hk : k.Follows b attached?)
    (ho : o.records = items.filterMap Item.record?) (hnamed : ∀ c ∈ o.blocks, c.info.name.isSome)
    (name : Text) :
    o'.findBlock? name = (o.findBlock? name).map (Block.relocate (k.movedWith attached? out)) := by
  rw [Outline.findBlock?, h.blocks_eq hk ho, List.find?_map, Outline.findBlock?]
  congr 1
  refine List.find?_congr fun c hc => ?_
  rw [Function.comp_apply, Block.name_relocate _ (hnamed c hc)]

/-- The region is the output of the block. -/
theorem attachedOutput?_eq (h : k.HasOutput attached? out t' o') (hk : k.Follows b attached?) :
    o'.attachedOutput? (lines t') b =
      some ⟨k.regionStart attached? + 1, k.regionStart attached? + out.fencedLines.height⟩ :=
  hk.attachedOutput?_moved (fun _ hl => blank_of_mem_lines_gap hl) out.fencedLines h.parsed
    h.lines_eq (h.mem_outputs_iff.mpr (.inr (.inl rfl))) rfl

end HasOutput

/-! ## The output of another block -/

/-- The output regions of the document that was cut. -/
theorem Follows.mem_outputs_iff {k : Cut (lines t) items} (hk : k.Follows b attached?)
    (ho : o.records = items.filterMap Item.record?) {q : OutputRegion} :
    q ∈ o.outputs ↔ Item.record (.output q) ∈ k.before ∨ attached? = some q ∨
      Item.record (.output q) ∈ k.after := by
  rw [Outline.outputs, Outline.mem_outputs_iff, ho, Outline.mem_records_iff]
  conv_lhs => rw [k.items_eq, List.mem_append, List.mem_append, or_assoc, hk.between_eq]
  cases attached? with
  | none => simp
  | some r => simp [eq_comm]

theorem startLine_le_of_mem_before (k : Cut (lines t) items) {r : Record}
    (hr : Item.record r ∈ k.before) : r.startLine ≤ r.endLine ∧ r.endLine ≤ k.front.length :=
  ⟨k.ordered_before.proper _ hr, k.ordered_before.below _ hr⟩

theorem lt_startLine_of_mem_after (k : Cut (lines t) items) {r : Record}
    (hr : Item.record r ∈ k.after) :
    k.front.length + k.middle.length < r.startLine ∧ r.startLine ≤ r.endLine :=
  ⟨k.ordered_after.above _ hr, k.ordered_after.proper _ hr⟩

theorem lt_endLine_of_mem_after (k : Cut (lines t) items) (hc : Item.record (.block c) ∈ k.after) :
    k.front.length + k.middle.length < c.endLine := by
  have := k.lt_startLine_of_mem_after hc
  simp only [Record.startLine, Record.endLine] at this
  omega

/-- What follows the front does not matter to the search for the output of a block before. -/
theorem Follows.skipBlanks_drop {k : Cut (lines t) items} (hk : k.Follows b attached?)
    (hc : c.endLine < b.startLine) (more : List Line) :
    Outline.skipBlanks (c.endLine + 1) ((k.front ++ more).drop c.endLine) =
        Outline.skipBlanks (c.endLine + 1) (k.front.drop c.endLine) ∧
      Outline.skipBlanks (c.endLine + 1) (k.front.drop c.endLine) ≤ k.front.length := by
  have hb := k.startLine_le_of_mem_before hk.block_mem
  simp only [Record.startLine, Record.endLine] at hb
  have hcontent := k.reads_front.exists_content_of_lt rfl hk.block_mem hc
  obtain ⟨heq, hlt⟩ := Outline.skipBlanks_append_of_exists hcontent (c.endLine + 1) more
  rw [List.length_drop] at hlt
  rw [List.drop_append_of_le_length (by omega)]
  exact ⟨heq, by omega⟩

/-- The search for the output of a block before the cut ends within its front. -/
theorem Follows.skipBlanks_le {k : Cut (lines t) items} (hk : k.Follows b attached?)
    (hc : c.endLine < b.startLine) :
    Outline.skipBlanks (c.endLine + 1) ((lines t).drop c.endLine) ≤ k.front.length := by
  have hskip := hk.skipBlanks_drop hc (k.middle ++ k.back)
  rw [← List.append_assoc, ← k.lines_eq] at hskip
  exact hskip.1 ▸ hskip.2

namespace HasOutput

variable {k : Cut (lines t) items} {out : Output}

theorem outputAt?_of_le (h : k.HasOutput attached? out t' o') (ho : Outline.parse t = .ok o)
    (hrecords : o.records = items.filterMap Item.record?) (hk : k.Follows b attached?) {n : ℕ}
    (hn : n ≤ k.front.length) : o'.outputAt? n = o.outputAt? n := by
  ext q
  rw [Outline.outputAt?_eq_some_iff h.parsed, Outline.outputAt?_eq_some_iff ho, h.mem_outputs_iff,
    hk.mem_outputs_iff hrecords]
  refine and_congr_left fun hq => or_congr_right ?_
  -- neither the region nor what stands behind it begins so early
  constructor
  · rintro (rfl | ⟨p, hp, rfl⟩)
    · simp only [regionStart] at hq
      omega
    · have := k.lt_startLine_of_mem_after hp
      simp only [Record.startLine] at this
      simp only [OutputRegion.relocate, k.movedWith_of_lt _ _ this.1] at hq
      omega
  · rintro (hq' | hq')
    · have := (hk.range q hq').1
      omega
    · have := k.lt_startLine_of_mem_after hq'
      simp only [Record.startLine] at this
      omega

theorem outputAt?_of_lt (h : k.HasOutput attached? out t' o') (ho : Outline.parse t = .ok o)
    (hrecords : o.records = items.filterMap Item.record?) (hk : k.Follows b attached?) {n : ℕ}
    (hn : k.front.length + k.middle.length < n) :
    o'.outputAt? (k.movedWith attached? out n) =
      (o.outputAt? n).map (OutputRegion.relocate (k.movedWith attached? out)) := by
  ext q
  rw [Outline.outputAt?_eq_some_iff h.parsed, h.mem_outputs_iff, Option.map_eq_some_iff]
  simp only [Outline.outputAt?_eq_some_iff ho, hk.mem_outputs_iff hrecords]
  rw [k.movedWith_of_lt _ _ hn]
  constructor
  · rintro ⟨hq | rfl | ⟨p, hp, rfl⟩, hstart⟩
    · have := k.startLine_le_of_mem_before hq
      simp only [Record.startLine, Record.endLine] at this
      omega
    · simp only [regionStart, FencedLines.height] at hstart
      omega
    · have := k.lt_startLine_of_mem_after hp
      simp only [Record.startLine] at this
      simp only [OutputRegion.relocate, k.movedWith_of_lt _ _ this.1] at hstart
      exact ⟨p, ⟨.inr (.inr hp), by omega⟩, rfl⟩
  · rintro ⟨p, ⟨hp | hp | hp, rfl⟩, rfl⟩
    · have := k.startLine_le_of_mem_before hp
      simp only [Record.startLine, Record.endLine] at this
      omega
    · have hproper := Outline.startLine_le_of_mem_outputs ho
        ((hk.mem_outputs_iff hrecords).mpr (.inr (.inl hp)))
      have := hk.range p hp
      omega
    · exact ⟨.inr (.inr ⟨p, hp, rfl⟩), k.movedWith_of_lt _ _ hn⟩

/-- A block before keeps its output where it is. -/
theorem attachedOutput?_before (h : k.HasOutput attached? out t' o') (ho : Outline.parse t = .ok o)
    (hrecords : o.records = items.filterMap Item.record?) (hk : k.Follows b attached?)
    (hc : c.endLine < b.startLine) :
    o'.attachedOutput? (lines t') c = o.attachedOutput? (lines t) c := by
  have hnew : lines t' = k.front ++ (lines (gap attached?) ++ out.fencedLines.lines ++ k.back) := by
    rw [h.lines_eq, linesWith, List.append_assoc]
  have hskip := hk.skipBlanks_drop hc (k.middle ++ k.back)
  rw [← List.append_assoc, ← k.lines_eq] at hskip
  rw [Outline.attachedOutput?, Outline.attachedOutput?, hnew, (hk.skipBlanks_drop hc _).1, hskip.1]
  exact h.outputAt?_of_le ho hrecords hk hskip.2

/-- A block behind keeps its output, which moves with it. -/
theorem attachedOutput?_after (h : k.HasOutput attached? out t' o') (ho : Outline.parse t = .ok o)
    (hrecords : o.records = items.filterMap Item.record?) (hk : k.Follows b attached?)
    (hc : Item.record (.block c) ∈ k.after) :
    o'.attachedOutput? (lines t') (c.relocate (k.movedWith attached? out)) =
      (o.attachedOutput? (lines t) c).map (OutputRegion.relocate (k.movedWith attached? out)) := by
  have hend := k.lt_endLine_of_mem_after hc
  have hmoved := k.movedWith_of_lt attached? out hend
  -- what stands behind the block is the same
  have hdrop : (lines t').drop (k.movedWith attached? out c.endLine) =
      (lines t).drop c.endLine := by
    obtain ⟨d, hd⟩ : ∃ d, c.endLine = k.front.length + k.middle.length + d :=
      ⟨_, (Nat.add_sub_of_le hend.le).symm⟩
    have hlength : k.movedWith attached? out c.endLine =
        (k.front ++ (lines (gap attached?) ++ out.fencedLines.lines)).length + d := by
      simp only [List.length_append, FencedLines.length_lines]
      omega
    rw [hlength, h.lines_eq, linesWith, ← List.drop_drop, List.drop_left, hd, ← List.drop_drop,
      k.drop_back]
  have hskip := Outline.skipBlanks_eq (c.endLine + 1) ((lines t).drop c.endLine)
  rw [Outline.attachedOutput?, Outline.attachedOutput?, ← h.outputAt?_of_lt ho hrecords hk
    (by rw [hskip]; omega)]
  congr 1
  show Outline.skipBlanks (k.movedWith attached? out c.endLine + 1)
    ((lines t').drop (k.movedWith attached? out c.endLine)) = _
  rw [hdrop, Outline.skipBlanks_eq, hskip, hmoved, k.movedWith_of_lt _ _ (by omega)]
  omega

end HasOutput

/-! ## Where output of another block is recorded -/

/-- Output of a block before the cut is recorded within its front. -/
theorem Follows.endLine_recordingEdit_le {k : Cut (lines t) items} (hk : k.Follows b attached?)
    (ho : Outline.parse t = .ok o) (hrecords : o.records = items.filterMap Item.record?)
    (hc : c.endLine < b.startLine) (out : Output) :
    (o.recordingEdit (lines t) c out).endLine ≤ k.front.length + 1 := by
  have hb := k.startLine_le_of_mem_before hk.block_mem
  simp only [Record.startLine, Record.endLine] at hb
  have hskip := hk.skipBlanks_le hc
  unfold Outline.recordingEdit
  cases ha : o.attachedOutput? (lines t) c with
  | none =>
    simp only
    omega
  | some r =>
    obtain ⟨hr, hstart⟩ := (Outline.outputAt?_eq_some_iff ho).mp ha
    simp only
    rcases (hk.mem_outputs_iff hrecords).mp hr with hr | hr | hr
    · have := (k.startLine_le_of_mem_before hr).2
      simp only [Record.endLine] at this
      omega
    · have := (hk.range r hr).1
      omega
    · have := (k.lt_startLine_of_mem_after hr).1
      simp only [Record.startLine] at this
      omega

namespace HasOutput

variable {k : Cut (lines t) items} {out : Output}

theorem recordingEdit_before (h : k.HasOutput attached? out t' o') (ho : Outline.parse t = .ok o)
    (hrecords : o.records = items.filterMap Item.record?) (hk : k.Follows b attached?)
    (hc : c.endLine < b.startLine) (out' : Output) :
    o'.recordingEdit (lines t') c out' = o.recordingEdit (lines t) c out' := by
  rw [Outline.recordingEdit, Outline.recordingEdit, h.attachedOutput?_before ho hrecords hk hc]

theorem recordingEdit_after (h : k.HasOutput attached? out t' o') (ho : Outline.parse t = .ok o)
    (hrecords : o.records = items.filterMap Item.record?) (hk : k.Follows b attached?)
    (hc : Item.record (.block c) ∈ k.after) (out' : Output) :
    o'.recordingEdit (lines t') (c.relocate (k.movedWith attached? out)) out' =
      (o.recordingEdit (lines t) c out').shift
        ((lines (gap attached?)).length + out.fencedLines.height - k.middle.length) := by
  have hend := k.lt_endLine_of_mem_after hc
  have hmoved : ∀ n, k.front.length + k.middle.length < n →
      (k.movedWith attached? out n : ℤ) =
        n + ((lines (gap attached?)).length + out.fencedLines.height - k.middle.length) := by
    intro n hn
    rw [k.movedWith_of_lt _ _ hn]
    omega
  rw [Outline.recordingEdit, Outline.recordingEdit, h.attachedOutput?_after ho hrecords hk hc]
  cases ha : o.attachedOutput? (lines t) c with
  | none =>
    simp only [Option.map_none, Edit.shift, Block.relocate, hmoved _ hend, Edit.mk.injEq, and_true]
    omega
  | some r =>
    obtain ⟨hr, hstart⟩ := (Outline.outputAt?_eq_some_iff ho).mp ha
    have hproper := Outline.startLine_le_of_mem_outputs ho hr
    rw [Outline.skipBlanks_eq] at hstart
    simp only [Option.map_some, Edit.shift, OutputRegion.relocate, Edit.mk.injEq, and_true]
    rw [hmoved _ (by omega), hmoved _ (by omega)]
    omega

end HasOutput

end Cut

end Literate

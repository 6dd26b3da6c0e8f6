import Mathlib
import Literate.Proofs.Outline.Attached
import Literate.Proofs.Outline.Relocation
import Literate.Proofs.Recording.Region

/-!
# Recording output preserves the document

Output is written where the output of its block stands, or right behind the block.  No paragraph
spans that place and the region is one fenced range, so the rest of the document is read as before:
what precedes the edit stays where it is, what follows it moves by the change in the number of
lines.

* `Edit.moved`: where a line of the document is after an edit.
* `WithOutput`: what a document with recorded output has to do with the document before.
* `recordingEdit_preserves`: recording succeeds and preserves the document.
-/

namespace Literate

open Text

/-- Where line `n` is after an edit that turns a document of `count` lines into one of `count'`;
lines that are replaced have no place. -/
def Edit.moved (e : Edit) (count count' n : ℕ) : ℕ :=
  if (n : ℤ) < e.endLine then n else n + count' - count

/-! ## The edit -/

namespace Cut

variable {ls : List Line} {items : List Item} {b : Block} {attached? : Option OutputRegion}

/-- What is put between the block and its output: a blank line when it has none yet. -/
def gap (attached? : Option OutputRegion) : Text := if attached?.isSome then [] else ['\n']

theorem isWhole_gap : IsWhole (gap attached?) := by
  cases attached? with
  | none => exact .inr rfl
  | some _ => exact .inl rfl

theorem blank_of_mem_lines_gap {l : Line} (h : l ∈ lines (gap attached?)) : allBlank l = true := by
  cases attached? with
  | none => simp_all [gap, lines, withEnds, content, dropLast?]; rfl
  | some _ => simp [gap, lines, withEnds] at h

/-- The edit that replaces the middle of a cut. -/
def edit (c : Cut ls items) (content : Text) : Edit :=
  ⟨c.front.length + 1, c.front.length + c.middle.length + 1, content⟩

/-- Output is recorded in the middle of the cut. -/
theorem Follows.recordingEdit_eq {o : Outline} {c : Cut ls items}
    (hc : c.Follows b (o.attachedOutput? ls b)) (out : Output) :
    o.recordingEdit ls b out = c.edit (gap (o.attachedOutput? ls b) ++ out.region) := by
  rw [Outline.recordingEdit, edit]
  cases ha : o.attachedOutput? ls b with
  | none =>
    obtain ⟨hmid, hlen⟩ := hc.empty ha
    simp [hmid, hlen, gap]
  | some r =>
    obtain ⟨h1, h2⟩ := hc.range r ha
    simp [h1, h2, gap]

/-- Lines of the front stay. -/
theorem moved_of_le (c : Cut ls items) (content : Text) (count' : ℕ) {n : ℕ}
    (hn : n ≤ c.front.length) : (c.edit content).moved ls.length count' n = n := by
  have hend : (c.edit content).endLine = c.front.length + c.middle.length + 1 := rfl
  rw [Edit.moved, hend, if_pos (by omega)]

/-- Lines of the back move by the change in the number of lines. -/
theorem moved_of_lt (c : Cut ls items) (content : Text) (count' : ℕ) {n : ℕ}
    (hn : c.front.length + c.middle.length < n) :
    (c.edit content).moved ls.length count' n = n + count' - ls.length := by
  have hend : (c.edit content).endLine = c.front.length + c.middle.length + 1 := rfl
  rw [Edit.moved, hend, if_neg (by omega)]

end Cut

/-! ## The document with the output -/

namespace Cut

variable {ls : List Line} {items : List Item} {b : Block} {attached? : Option OutputRegion}

theorem map_moved_before (c : Cut ls items) (content : Text) (count' : ℕ) :
    c.before.map (Item.relocate ((c.edit content).moved ls.length count')) = c.before :=
  Item.map_relocate_eq_self c.ordered_before fun _ hj => c.moved_of_le content count' hj

/-- Blank lines and a fenced range put in the middle of a cut are read as one record. -/
theorem reads_replaced (c : Cut ls items) (content : Text) {bs : List Line}
    (hbs : ∀ l ∈ bs, allBlank l = true) (g : FencedLines) :
    ∃ last, Reading Scan.start (c.front ++ (bs ++ g.lines) ++ c.back) last
      (c.before ++ [.record (g.record (c.front.length + bs.length))] ++ c.after.map
        (Item.relocate ((c.edit content).moved ls.length
          (c.front ++ (bs ++ g.lines) ++ c.back).length))) := by
  have hblanks := Reading.blanks c.title hbs c.front.length
  have hrange := Reading.single (s := ⟨c.front.length + bs.length, .prose none, c.title⟩) rfl g
  obtain ⟨last, h⟩ := c.reads_front.splice (hblanks.append hrange) c.reads_back
  refine ⟨last, ?_⟩
  rw [← Item.map_relocate_congr c.ordered_after fun j hj => ?_]
  · exact h
  · rw [c.moved_of_lt content _ hj, c.length_eq]
    simp only [List.length_append, FencedLines.length_lines]
    omega

/-- The front of the cut holds the opening fence of its block. -/
theorem Follows.exists_content {c : Cut ls items} (hc : c.Follows b attached?) :
    ∃ l ∈ c.front, allBlank l = false := by
  obtain ⟨pre, g, post, _, _, _, hls, -⟩ := c.reads_front.record_inv hc.block_mem
  refine ⟨g.opener, ?_, Fence.allBlank_eq_false_of_ofLine? g.opens⟩
  rw [hls]
  simp [FencedLines.lines]

/-- What is read off items other than regions is the same after the edit but for its lines. -/
theorem Follows.filterMap_moved {γ : Type} {c : Cut ls items} (hc : c.Follows b attached?)
    {f : ℕ → ℕ} (hbefore : c.before.map (Item.relocate f) = c.before) (r : OutputRegion)
    {p : Item → Option γ} {φ : γ → γ} (hp : ∀ i : Item, p (i.relocate f) = (p i).map φ)
    (hout : ∀ q, p (.record (.output q)) = none) :
    (c.before ++ [Item.record (.output r)] ++ c.after.map (Item.relocate f)).filterMap p =
      (items.filterMap p).map φ := by
  have hmap : ∀ more : List Item,
      (more.map (Item.relocate f)).filterMap p = (more.filterMap p).map φ := by
    intro more
    rw [List.filterMap_map, List.map_filterMap]
    exact List.filterMap_congr fun i _ => hp i
  have hbetween : c.between.filterMap p = [] := by
    rw [hc.between_eq]
    cases attached? <;> simp [hout]
  have hitems := congrArg (List.filterMap p) c.items_eq
  rw [List.filterMap_append, List.filterMap_append, hbetween, List.append_nil] at hitems
  rw [← hbefore, hitems, List.filterMap_append, List.filterMap_append, hmap, hmap,
    List.filterMap_cons_none (hout r), List.filterMap_nil, List.append_nil, List.map_append]

/-- The slides keep their titles and kinds, the implicit one included. -/
theorem Follows.slides_moved {c : Cut ls items} (hc : c.Follows b attached?) (content : Text)
    (new : List Line) (r : OutputRegion) :
    let f := (c.edit content).moved ls.length (c.front ++ new ++ c.back).length
    Outline.withImplicit (c.front ++ new ++ c.back)
        ((c.before ++ [Item.record (.output r)] ++
          c.after.map (Item.relocate f)).filterMap Item.slide?) =
      (Outline.withImplicit ls (items.filterMap Item.slide?)).map (Slide.relocate f) := by
  intro f
  obtain ⟨first, hpos, hle, hfirst⟩ := Outline.firstContent?_append hc.exists_content
  have hcontent : Outline.firstContent? ls = some first := by
    have := hfirst (c.middle ++ c.back)
    rwa [← List.append_assoc, ← c.lines_eq] at this
  rw [hc.filterMap_moved (c.map_moved_before content _) r (φ := Slide.relocate f)
    (by intro i; cases i <;> rfl) (fun _ => rfl)]
  refine Outline.withImplicit_relocate hcontent ?_ (c.moved_of_le content _ (by omega)) ?_
  · rw [List.append_assoc, hfirst]
  · intro s hs
    have hitem : Item.slide s ∈ c.before ++ c.between ++ c.after := by
      rw [← c.items_eq]
      exact Outline.mem_slides_iff.mp hs
    rcases List.mem_append.mp hitem with hs | hs
    · have hstart : s.startLine ≤ c.front.length := by
        rcases List.mem_append.mp hs with hs | hs
        · exact c.ordered_before.below _ hs
        · rw [hc.between_eq] at hs
          cases attached? <;> simp at hs
      rw [c.moved_of_le content _ hstart]
    · have hstart : c.front.length + c.middle.length < s.startLine := c.ordered_after.above _ hs
      have hlen := c.length_eq
      rw [c.moved_of_lt content _ hstart]
      simp only [List.length_append]
      omega

/-- The records before the edit stay, those after it move. -/
theorem Follows.records_moved {c : Cut ls items} (hc : c.Follows b attached?) (f : ℕ → ℕ)
    (r : OutputRegion) :
    ∃ before after, items.filterMap Item.record? =
        before ++ (attached?.map Record.output).toList ++ after ∧
      (c.before ++ [Item.record (.output r)] ++ c.after.map (Item.relocate f)).filterMap
        Item.record? = before ++ [.output r] ++ after.map (Record.relocate f) := by
  refine ⟨c.before.filterMap Item.record?, c.after.filterMap Item.record?, ?_, ?_⟩
  · have hbetween : c.between.filterMap Item.record? = (attached?.map Record.output).toList := by
      rw [hc.between_eq]
      cases attached? <;> rfl
    have := congrArg (List.filterMap Item.record?) c.items_eq
    rwa [List.filterMap_append, List.filterMap_append, hbetween] at this
  · rw [List.filterMap_append, List.filterMap_append, Item.filterMap_record?_relocate]
    rfl

/-- The first block of its name is found again, for the blocks before it stay. -/
theorem Follows.find?_moved {c : Cut ls items} (hc : c.Follows b attached?) {p : Block → Bool}
    (hb : ((items.filterMap Item.record?).filterMap Record.block?).find? p = some b)
    (more : List Item) :
    (((c.before ++ more).filterMap Item.record?).filterMap Record.block?).find? p = some b := by
  have hbefore : ((c.before.filterMap Item.record?).filterMap Record.block?).find? p ≠ none := by
    intro hnone
    have := List.find?_eq_none.mp hnone b
      (Outline.mem_blocks_iff.mpr (Outline.mem_records_iff.mpr hc.block_mem))
    exact this (List.find?_some hb)
  have hsplit := congrArg (fun is => ((is.filterMap Item.record?).filterMap Record.block?).find? p)
    c.items_eq
  rw [hb, List.append_assoc] at hsplit
  simp only [List.filterMap_append, List.find?_append] at hsplit ⊢
  cases hf : ((c.before.filterMap Item.record?).filterMap Record.block?).find? p with
  | none => exact absurd hf hbefore
  | some b' =>
    rw [hf, Option.some_or] at hsplit
    rw [Option.some_or, hsplit]

/-- From the block on, blank lines are skipped up to the first line behind them. -/
theorem Follows.skipBlanks_moved {c : Cut ls items} (hc : c.Follows b attached?) {bs : List Line}
    (hbs : ∀ l ∈ bs, allBlank l = true) {opener : Line} (hopener : allBlank opener = false)
    (rest : List Line) :
    Outline.skipBlanks (b.endLine + 1) ((c.front ++ (bs ++ opener :: rest)).drop b.endLine) =
      c.front.length + bs.length + 1 := by
  have hle := hc.endLine_le
  rw [List.drop_append_of_le_length hle, Outline.skipBlanks_append hc.blank,
    Outline.skipBlanks_append hbs, Outline.skipBlanks_cons hopener, List.length_drop]
  omega

/-- A region behind blank lines in the middle of the cut is the output of the block. -/
theorem Follows.attachedOutput?_moved {c : Cut ls items} (hc : c.Follows b attached?)
    {bs : List Line} (hbs : ∀ l ∈ bs, allBlank l = true) (g : FencedLines) {t' : Text}
    {o' : Outline} (hparse : Outline.parse t' = .ok o')
    (hlines : lines t' = c.front ++ (bs ++ g.lines) ++ c.back) {r : OutputRegion}
    (hr : r ∈ o'.outputs) (hstart : r.startLine = c.front.length + bs.length + 1) :
    o'.attachedOutput? (lines t') b = some r := by
  have hopener : allBlank g.opener = false := Fence.allBlank_eq_false_of_ofLine? g.opens
  have hsplit : lines t' = c.front ++ (bs ++ g.opener :: (g.inner ++ [g.closer] ++ c.back)) := by
    rw [hlines, FencedLines.lines]
    simp
  rw [Outline.attachedOutput?, hsplit, hc.skipBlanks_moved hbs hopener]
  exact (Outline.outputAt?_eq_some_iff hparse).mpr ⟨hr, hstart⟩

end Cut

/-! ## Recording -/

/-- What a document `t'`, read to `o'`, in which output is recorded below a block has to do with the
document `t`, read to `o`, it was recorded in by the edit `e`. -/
structure WithOutput (t : Text) (o : Outline) (b : Block) (out : Output) (e : Edit) (t' : Text)
    (o' : Outline) (r : OutputRegion) : Prop where
  /-- The records are those of before, with one region new or in place of the one attached. -/
  records : ∃ before after,
    o.records = before ++ ((o.attachedOutput? (lines t) b).map .output).toList ++ after ∧
    o'.records = before ++ [.output r] ++
      after.map (Record.relocate (e.moved o.lineCount o'.lineCount))
  /-- The blocks are those of before; only their lines move. -/
  blocks : o'.blocks = o.blocks.map (Block.relocate (e.moved o.lineCount o'.lineCount))
  /-- The slides are those of before; only their lines move. -/
  slides : o'.slides = o.slides.map (Slide.relocate (e.moved o.lineCount o'.lineCount))
  /-- The block keeps its name and its place. -/
  found : o'.findBlock? b.name = some b
  /-- The region is the output of the block. -/
  attached : o'.attachedOutput? (lines t') b = some r
  /-- Between the fences of the region stands the payload and nothing else. -/
  payload : ((withEnds t').drop r.startLine).take (r.endLine - 1 - r.startLine) =
    withEnds (out.payload ++ ['\n'])
  /-- Outside the edit all lines are kept, the last one with a newline. -/
  kept : withEnds t' = ((withEnds t).take (e.startLine.toNat - 1)).map Edit.terminated ++
    withEnds e.content ++ (withEnds t).drop (e.endLine.toNat - 1)

namespace Cut

variable {t : Text} {items : List Item} {b : Block}

/-- The lines of the document after the edit. -/
theorem withEnds_replaced (c : Cut (lines t) items) {content : Text} (h : IsWhole content) :
    ∃ t', (c.edit content).apply t = .ok t' ∧
      withEnds t' =
        ((withEnds t).take ((c.edit content).startLine.toNat - 1)).map Edit.terminated ++
          withEnds content ++ (withEnds t).drop ((c.edit content).endLine.toNat - 1) ∧
      lines t' = c.front ++ lines content ++ c.back := by
  have hlen := c.length_eq
  have hfit : 1 ≤ (c.edit content).startLine ∧
      (c.edit content).startLine ≤ (c.edit content).endLine ∧
      (c.edit content).endLine ≤ (withEnds t).length + 1 := by
    rw [← length_lines]
    simp only [edit]
    omega
  have hstart : (c.edit content).startLine.toNat - 1 = c.front.length := by
    simp only [edit]
    omega
  have hend : (c.edit content).endLine.toNat - 1 = c.front.length + c.middle.length := by
    simp only [edit]
    omega
  refine ⟨_, by rw [Edit.apply, if_pos hfit], ?_, ?_⟩
  · exact (withEnds_splice t _ _ content).trans (by rw [fitted_of_isWhole h])
  · rw [hstart, hend]
    exact (lines_splice t _ _ content).trans (by rw [c.take_front, c.drop_back])

theorem length_take_withEnds (c : Cut (lines t) items) (content : Text) :
    (((withEnds t).take ((c.edit content).startLine.toNat - 1)).map Edit.terminated).length =
      c.front.length := by
  have hlen := c.length_eq
  rw [length_lines] at hlen
  rw [List.length_map, List.length_take, edit]
  simp only
  omega

end Cut

namespace Output

/-- The payload within the lines of a text that holds the region. -/
theorem payload_withEnds {t' gap : Text} {front back : List Text} (out : Output)
    (hgap : IsWhole gap) (h : withEnds t' = front ++ withEnds (gap ++ out.region) ++ back) {n : ℕ}
    (hn : n = front.length + (lines gap).length) :
    ((withEnds t').drop (n + 1)).take (n + out.fencedLines.height - 1 - (n + 1)) =
      withEnds (out.payload ++ ['\n']) := by
  have hsplit : withEnds t' =
      (front ++ withEnds gap ++ [fenceFor out.payload ++ outputInfo ++ ['\n']]) ++
        (withEnds (out.payload ++ ['\n']) ++ ([fenceFor out.payload ++ ['\n']] ++ back)) := by
    rw [h, withEnds_append hgap, withEnds_region]
    simp
  have hinner : n + out.fencedLines.height - 1 - (n + 1) =
      (withEnds (out.payload ++ ['\n'])).length := by
    rw [← length_lines, FencedLines.height,
      show out.fencedLines.inner = lines (out.payload ++ ['\n']) from rfl]
    omega
  rw [hinner, hsplit, List.drop_left' (by simp [length_lines, hn]; omega), List.take_left' rfl]

end Output

/-- **Recording output preserves the document.**  For every block of every document that can be
read, and whatever the output is, the edit fits and the document with the output can be read: its
blocks and slides are those of before, its records are too but for one region, that region is
attached to the block and holds the payload, and lines outside the edit are kept. -/
theorem recordingEdit_preserves {t name : Text} {o : Outline} {b : Block}
    (ho : Outline.parse t = .ok o) (hb : o.findBlock? name = some b) (out : Output) :
    ∃ e t' o' r, recordingEdit t name out = .ok e ∧ e.apply t = .ok t' ∧
      Outline.parse t' = .ok o' ∧ b.name = name ∧ WithOutput t o b out e t' o' r := by
  have hname := Outline.name_of_findBlock? hb
  obtain ⟨items, c, hitems, hc⟩ := Outline.exists_cut ho (Outline.mem_of_findBlock? hb)
  set attached? := o.attachedOutput? (lines t) b with hatt
  have hblank : ∀ l ∈ lines (Cut.gap attached?), allBlank l = true :=
    fun l hl => Cut.blank_of_mem_lines_gap hl
  obtain ⟨t', happly, hends, hlines⟩ :=
    c.withEnds_replaced (Cut.isWhole_gap.append out.isWhole_region)
  rw [lines_append Cut.isWhole_gap, Output.lines_region] at hlines
  obtain ⟨last, hread⟩ := c.reads_replaced (Cut.gap attached? ++ out.region) hblank out.fencedLines
  rw [← hlines, Output.record_fencedLines] at hread
  set n := c.front.length + (lines (Cut.gap attached?)).length with hn
  have hparse := Outline.parse_eq_ok_iff.mpr ⟨last, _, hread, rfl⟩
  refine ⟨_, t', _, ⟨n + 1, n + out.fencedLines.height⟩, ?_, happly, hparse, hname, ?_⟩
  · rw [recordingEdit, ho]
    simp only [hb, hc.recordingEdit_eq out, ← hatt]
  · subst hitems
    refine ⟨hc.records_moved _ _, ?_, ?_, ?_, ?_, ?_, hends⟩
    · simp only [Outline.blocks, List.filterMap_filterMap]
      refine hc.filterMap_moved (c.map_moved_before _ _) _ ?_ (fun _ => rfl)
      intro i
      rcases i with (_ | _) | _ <;> rfl
    · have hslides := hc.slides_moved (Cut.gap attached? ++ out.region)
        (lines (Cut.gap attached?) ++ out.fencedLines.lines)
      rw [← hlines] at hslides
      exact hslides _
    · rw [hname, Outline.findBlock?, Outline.blocks, List.append_assoc]
      exact hc.find?_moved hb _
    · refine hc.attachedOutput?_moved hblank out.fencedLines hparse hlines ?_ rfl
      exact Outline.mem_outputs_iff.mpr (Outline.mem_records_iff.mpr (by simp))
    · exact out.payload_withEnds Cut.isWhole_gap hends (by rw [c.length_take_withEnds])

/-- The output holds a line that would close a fence of three. -/
theorem recordingEdit_preserves_backticks :
    let t := "# T\n```sh a\nx\n```\nend".toList
    let out := Output.text "```\n".toList
    let b : Block :=
      ⟨2, 4, "```".toList, ⟨"sh".toList, some ['a'], none, [], [], false, false⟩, [['x']]⟩
    let o : Outline := ⟨5, [.block b], [⟨1, ['T'], .heading⟩]⟩
    let e : Edit := ⟨5, 5, "\n````output\n```\n````\n".toList⟩
    let t' := "# T\n```sh a\nx\n```\n\n````output\n```\n````\nend".toList
    Outline.parse t = .ok o ∧ o.findBlock? ['a'] = some b ∧ recordingEdit t ['a'] out = .ok e ∧
      e.apply t = .ok t' ∧ ∃ o' r, Outline.parse t' = .ok o' ∧ WithOutput t o b out e t' o' r := by
  intro t out b o e t'
  have ho : Outline.parse t = .ok o := by decide +kernel
  have hb : o.findBlock? ['a'] = some b := by decide +kernel
  have hedit : recordingEdit t ['a'] out = .ok e := by decide +kernel
  have happly : e.apply t = .ok t' := by decide +kernel
  obtain ⟨_, _, o', r, he, ht, hparse, -, hrec⟩ := recordingEdit_preserves ho hb out
  rw [hedit] at he
  cases he
  rw [happly] at ht
  cases ht
  exact ⟨ho, hb, hedit, happly, o', r, hparse, hrec⟩

end Literate

import Mathlib
import Literate.Proofs.Outline.Parse

/-!
# Where the output of a block stands

The output attached to a block is the first thing after it, with only blank lines between.  A
document can be cut there, or right after the block when there is no output, and no paragraph spans
the cut.

* `Cut`: a document in three parts, with no paragraph across a cut.
* `Cut.Follows`: the part in the middle is the output of a block, or empty when it has none.
* `Outline.exists_cut`: every block of a parsed document has such a cut.
-/

namespace Literate

open Text

namespace Reading

variable {s t mid : Scan} {ls ms : List Line} {items before : List Item}

theorem nil_inv (h : Reading s [] t items) : t = s ∧ items = [] := by
  have := h.run_eq
  rw [Scan.run] at this
  cases this
  exact ⟨rfl, rfl⟩

/-- What follows lines that were read is run from where they leave off. -/
theorem run_append (h : Reading s ls t items) (ms : List Line) :
    s.run (ls ++ ms) = (t.run ms).map fun r => (r.1, items ++ r.2) := by
  induction h with
  | @nil s _ _ => cases hr : s.run ms <;> simp [hr, Except.map]
  | @line s t _ _ _ _ hs _ _ ih =>
    rw [List.cons_append, Scan.run_cons_ok (Scan.step_prose hs _), ih]
    cases t.run ms <;> simp [Except.map]
  | @range s t _ _ _ hs g _ ih =>
    rw [List.append_assoc, Scan.run_range hs, ih]
    cases t.run ms <;> rfl

/-- A reading that begins like another one goes on from its end. -/
theorem append_inv (h : Reading s (ls ++ ms) t items) (hls : Reading s ls mid before) :
    ∃ after, Reading mid ms t after ∧ items = before ++ after := by
  have hrun := h.run_eq
  rw [hls.run_append] at hrun
  obtain ⟨after, hafter, rfl⟩ := Scan.run_map_inv hrun
  obtain ⟨_, hmid⟩ := hls.mode_end
  obtain ⟨_, hend⟩ := h.mode_end
  exact ⟨after, .of_run hmid hafter hend, rfl⟩

/-- A record that starts at the next line is read from the fenced range that begins there. -/
theorem record_at_start (h : Reading s ls t items) {r : Record} (hr : Item.record r ∈ items)
    (hstart : r.startLine = s.count + 1) :
    ∃ g rest after, ls = FencedLines.lines g ++ rest ∧ r = g.record s.count ∧
      Reading ⟨s.count + g.height, .prose none, s.title⟩ rest t after ∧
      items = .record r :: after := by
  obtain ⟨pre, g, post, mid, before, after, rfl, hpre, rfl, hpost, rfl⟩ := h.record_inv hr
  rw [FencedLines.startLine_record, hpre.count_end] at hstart
  obtain rfl : pre = [] := List.length_eq_zero_iff.mp (by omega)
  obtain ⟨rfl, rfl⟩ := hpre.nil_inv
  exact ⟨g, post, after, rfl, rfl, hpost, rfl⟩

end Reading

namespace Outline

theorem skipBlanks_append {bs : List Line} (h : ∀ l ∈ bs, allBlank l = true) (n : ℕ)
    (ls : List Line) : skipBlanks n (bs ++ ls) = skipBlanks (n + bs.length) ls := by
  induction bs generalizing n with
  | nil => rfl
  | cons l bs ih =>
    rw [List.cons_append, skipBlanks, if_pos (h l (by simp)),
      ih (fun m hm => h m (by simp [hm])), List.length_cons,
      show n + 1 + bs.length = n + (bs.length + 1) by omega]

theorem skipBlanks_cons {l : Line} (h : allBlank l = false) (n : ℕ) (ls : List Line) :
    skipBlanks n (l :: ls) = n := by
  simp [skipBlanks, h]

/-- The blank lines at the front are skipped and no others. -/
theorem skipBlanks_eq (n : ℕ) (ls : List Line) :
    skipBlanks n ls = n + (ls.takeWhile allBlank).length := by
  induction ls generalizing n with
  | nil => rfl
  | cons l ls ih =>
    cases hl : allBlank l with
    | true => rw [skipBlanks, if_pos hl, ih, List.takeWhile_cons_of_pos hl, List.length_cons]; omega
    | false => rw [skipBlanks_cons hl, List.takeWhile_cons_of_neg (by simp [hl])]; rfl

/-- What stands behind a line that is not blank is not looked at. -/
theorem skipBlanks_append_of_exists {ls : List Line} (h : ∃ l ∈ ls, allBlank l = false) (n : ℕ)
    (more : List Line) :
    skipBlanks n (ls ++ more) = skipBlanks n ls ∧ skipBlanks n ls < n + ls.length := by
  induction ls generalizing n with
  | nil =>
    obtain ⟨l, hl, -⟩ := h
    cases hl
  | cons l ls ih =>
    cases hl : allBlank l with
    | false =>
      rw [List.cons_append, skipBlanks_cons hl, skipBlanks_cons hl, List.length_cons]
      exact ⟨rfl, by omega⟩
    | true =>
      obtain ⟨m, hm, hblank⟩ := h
      have hrest : ∃ l ∈ ls, allBlank l = false := by
        rcases List.mem_cons.mp hm with rfl | hm
        · rw [hl] at hblank
          cases hblank
        · exact ⟨m, hm, hblank⟩
      obtain ⟨heq, hlt⟩ := ih hrest (n + 1)
      rw [List.cons_append, skipBlanks, if_pos hl, skipBlanks, if_pos hl, List.length_cons, heq]
      exact ⟨rfl, by omega⟩

end Outline

/-! ## Cutting a document -/

/-- A document in three parts, where no paragraph spans a cut. -/
structure Cut (ls : List Line) (items : List Item) where
  front : List Line
  middle : List Line
  back : List Line
  before : List Item
  between : List Item
  after : List Item
  title : Option Text
  last : Scan
  lines_eq : ls = front ++ middle ++ back
  items_eq : items = before ++ between ++ after
  reads_front : Reading Scan.start front ⟨front.length, .prose none, title⟩ before
  reads_back : Reading ⟨front.length + middle.length, .prose none, title⟩ back last after

namespace Cut

variable {ls : List Line} {items : List Item}

theorem length_eq (c : Cut ls items) :
    ls.length = c.front.length + c.middle.length + c.back.length := by
  have := congrArg List.length c.lines_eq
  simpa only [List.length_append] using this

theorem take_front (c : Cut ls items) : ls.take c.front.length = c.front := by
  have := congrArg (List.take c.front.length) c.lines_eq
  rwa [List.append_assoc, List.take_left] at this

theorem drop_back (c : Cut ls items) :
    ls.drop (c.front.length + c.middle.length) = c.back := by
  have := congrArg (List.drop (c.front.length + c.middle.length)) c.lines_eq
  rwa [List.drop_left' (by simp)] at this

theorem ordered_before (c : Cut ls items) : Item.Ordered 0 c.front.length c.before :=
  c.reads_front.ordered

/-- What comes after the cut lies after all lines before it. -/
theorem ordered_after (c : Cut ls items) :
    Item.Ordered (c.front.length + c.middle.length) c.last.settled c.after :=
  (c.reads_back.settled_le (Scan.anchored_none _ _)).2.2

/-- The cut at the output of a block: the middle is the output, after nothing but blank lines, or it
is empty and right behind the block. -/
structure Follows (c : Cut ls items) (b : Block) (attached? : Option OutputRegion) : Prop where
  block_mem : Item.record (.block b) ∈ c.before
  endLine_le : b.endLine ≤ c.front.length
  blank : ∀ l ∈ c.front.drop b.endLine, allBlank l = true
  between_eq : c.between = (attached?.map fun r => Item.record (.output r)).toList
  range : ∀ r, attached? = some r →
    r.startLine = c.front.length + 1 ∧ r.endLine = c.front.length + c.middle.length
  empty : attached? = none → c.middle = [] ∧ c.front.length = b.endLine

end Cut

namespace Outline

/-- A document up to the end of a block, and what is read behind it. -/
theorem exists_block_cut {last : Scan} {ls : List Line} {items : List Item}
    (h : Reading Scan.start ls last items) {b : Block} (hb : Item.record (.block b) ∈ items) :
    ∃ head rest before after title, ls = head ++ rest ∧ items = before ++ after ∧
      head.length = b.endLine ∧ Item.record (.block b) ∈ before ∧
      Reading Scan.start head ⟨b.endLine, .prose none, title⟩ before ∧
      Reading ⟨b.endLine, .prose none, title⟩ rest last after := by
  obtain ⟨pre, g, post, mid, before, after, hls, hpre, hg, hpost, hitems⟩ := h.record_inv hb
  have hcount : mid.count = pre.length := by rw [hpre.count_end]; simp [Scan.start]
  obtain ⟨_, hmid⟩ := hpre.mode_end
  have hend : b.endLine = mid.count + g.height := by
    have := congrArg Record.endLine hg
    rwa [FencedLines.endLine_record] at this
  have hblock := Reading.single hmid g
  rw [← hg, ← hend] at hblock
  rw [← hend] at hpost
  refine ⟨pre ++ g.lines, post, before ++ [.record (.block b)], after, mid.title, hls, ?_, ?_,
    by simp, hpre.append hblock, hpost⟩
  · rw [hitems, List.append_assoc]
    rfl
  · rw [List.length_append, FencedLines.length_lines]
    omega

/-- A record that starts at the first line that is not blank: blank lines, its lines, and what is
read behind them. -/
theorem exists_record_cut {n : ℕ} {title : Option Text} {last : Scan} {ls : List Line}
    {items : List Item} (h : Reading ⟨n, .prose none, title⟩ ls last items) {r : Record}
    (hr : Item.record r ∈ items) (hstart : skipBlanks (n + 1) ls = r.startLine) :
    ∃ (bs : List Line) (g : FencedLines) (rest : List Line) (after : List Item),
      ls = bs ++ g.lines ++ rest ∧ items = .record r :: after ∧
      (∀ l ∈ bs, allBlank l = true) ∧ r.startLine = n + bs.length + 1 ∧
      r.endLine = n + bs.length + g.height ∧
      Reading ⟨n + bs.length + g.height, .prose none, title⟩ rest last after := by
  have hblank : ∀ l ∈ ls.takeWhile allBlank, allBlank l = true :=
    fun l hl => List.mem_takeWhile_imp hl
  rw [skipBlanks_eq] at hstart
  -- the blank lines finish nothing
  rw [← List.takeWhile_append_dropWhile (p := allBlank) (l := ls)] at h
  obtain ⟨after, hrest, rfl⟩ := h.append_inv (Reading.blanks title hblank n)
  obtain ⟨g, rest, after, hdrop, rfl, hafter, hitems⟩ := hrest.record_at_start hr
    (by simp only; omega)
  refine ⟨ls.takeWhile allBlank, g, rest, after, ?_, hitems, hblank, by omega,
    g.endLine_record _, hafter⟩
  rw [List.append_assoc, ← hdrop, List.takeWhile_append_dropWhile]

/-- **The place of a block's output.**  A parsed document can be cut at the output attached to a
block, or right behind the block when there is none. -/
theorem exists_cut {t : Text} {o : Outline} (h : Outline.parse t = .ok o) {b : Block}
    (hb : b ∈ o.blocks) :
    ∃ items, ∃ c : Cut (lines t) items,
      o = ⟨(lines t).length, items.filterMap Item.record?,
        withImplicit (lines t) (items.filterMap Item.slide?)⟩ ∧
      c.Follows b (o.attachedOutput? (lines t) b) := by
  have hat := fun {n r} => outputAt?_eq_some_iff h (n := n) (r := r)
  obtain ⟨last, items, hread, rfl⟩ := parse_eq_ok_iff.mp h
  obtain ⟨head, rest, before, after, title, hls, rfl, hlen, hblock, hhead, hrest⟩ :=
    exists_block_cut hread (mem_records_iff.mp (mem_blocks_iff.mp hb))
  have hdrop : (lines t).drop b.endLine = rest := by rw [hls, List.drop_left' hlen]
  cases hatt : attachedOutput? _ (lines t) b with
  | none =>
    refine ⟨_, ⟨head, [], rest, before, [], after, title, last, by simpa using hls, by simp,
      by rwa [hlen], by rwa [hlen]⟩, rfl, hblock, hlen.ge, ?_, rfl, by simp, fun _ => ⟨rfl, hlen⟩⟩
    intro l hl
    simp only [List.drop_eq_nil_of_le hlen.le, List.not_mem_nil] at hl
  | some r =>
    rw [attachedOutput?, hdrop] at hatt
    obtain ⟨hmem, hstart⟩ := hat.mp hatt
    rw [outputs, mem_outputs_iff, mem_records_iff] at hmem
    have hafter : Item.record (.output r) ∈ after := by
      rcases List.mem_append.mp hmem with hm | hm
      · -- the records read so far end with the block
        have hbelow := hhead.ordered.below _ hm
        have hproper := hhead.ordered.proper _ hm
        rw [skipBlanks_eq] at hstart
        simp only [Item.lastLine, Item.firstLine, Record.startLine, Record.endLine]
          at hbelow hproper
        omega
      · exact hm
    obtain ⟨bs, g, back, after, rfl, rfl, hblank, hfirst, hend, hback⟩ :=
      exists_record_cut hrest hafter hstart.symm
    have hfront : (head ++ bs).length = b.endLine + bs.length := by rw [List.length_append, hlen]
    have hreads := hhead.append (Reading.blanks title hblank b.endLine)
    rw [List.append_nil, ← hfront] at hreads
    rw [← hfront, ← FencedLines.length_lines] at hback
    refine ⟨_, ⟨head ++ bs, g.lines, back, before, [.record (.output r)], after, title, last,
      by rw [hls]; simp, by simp, hreads, hback⟩, rfl, hblock,
      by simp only [hfront]; omega, ?_, rfl, ?_, by simp⟩
    · intro l hl
      simp only [List.drop_left' hlen] at hl
      exact hblank l hl
    · rintro q hq
      cases hq
      simp only [hfront, FencedLines.length_lines]
      exact ⟨hfirst, hend⟩

end Outline

end Literate

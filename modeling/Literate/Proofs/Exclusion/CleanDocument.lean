import Mathlib
import Literate.Proofs.Exclusion.Collect

/-!
# Documents with nothing to exclude

A document whose lines outside fences are clean and whose blocks have no markers is left alone by
every exclusion.

* `Layout.holds_or_of_mem`: a line is in a range or stands outside fences.
* `Exclusion.IsCleanLayout`: a layout without markers.
* `Exclusion.IsCleanLayout.keptLines_eq`: a document with such a layout stays as it is.
-/

namespace Literate

open Text

namespace Layout

variable {P : Line → Prop} {n : ℕ} {ls : List Line} {gs : List (ℕ × FencedLines)}

/-- A line is in a range, or it stands outside fences and has the property. -/
theorem holds_or_of_mem (h : Layout P n ls gs) {e : Entry} (he : e ∈ Entry.numbered (n + 1) ls) :
    (∃ p ∈ gs, (p.2.record p.1).holds e.number = true) ∨ P e.text := by
  induction h with
  | nil => cases he
  | @line n l ls gs hl hp rest ih =>
    rw [Entry.numbered] at he
    rcases List.mem_cons.mp he with rfl | he
    · exact .inr hp
    · exact ih he
  | @range n ls gs g rest ih =>
    rw [Entry.numbered_append, FencedLines.length_lines,
      show n + 1 + g.height = n + g.height + 1 by omega] at he
    rcases List.mem_append.mp he with he | he
    · exact .inl ⟨(n, g), by simp, Exclusion.holds_of_mem_numbered (p := (n, g)) he⟩
    · rcases ih he with ⟨p, hp, hholds⟩ | hP
      · exact .inl ⟨p, by simp [hp], hholds⟩
      · exact .inr hP

theorem text_of_mem (h : Layout P 0 ls gs) {p : ℕ × FencedLines} (hp : p ∈ gs) {e : Entry}
    (he : e ∈ Entry.numbered 1 ls) (hn : e.number = p.1 + 1) : e.text = p.2.opener := by
  obtain ⟨pre, post, rfl, hpre⟩ := h.exists_split hp
  have := (Entry.mem_numbered_iff.mp he).2
  rw [hn, Nat.add_sub_cancel, hpre, Nat.zero_add, List.append_assoc, List.getElem?_append_right
    le_rfl, Nat.sub_self, FencedLines.lines, List.cons_append, List.getElem?_cons_zero] at this
  exact (Option.some.inj this).symm

theorem startLine_le_endLine {r : Record} (hr : r ∈ records gs) : r.startLine ≤ r.endLine := by
  obtain ⟨p, -, rfl⟩ := mem_records_iff.mp hr
  rw [FencedLines.startLine_record, FencedLines.endLine_record, FencedLines.height]
  omega

theorem block_startLine_le {o : Outline} (ho : o.records = records gs) :
    ∀ b ∈ o.blocks, b.startLine ≤ b.endLine := by
  intro b hb
  rw [Outline.blocks, Outline.mem_blocks_iff, ho] at hb
  exact startLine_le_endLine hb

end Layout

namespace Exclusion

/-- A layout with clean lines outside fences and no markers on opening fences. -/
structure IsCleanLayout (ls : List Line) (gs : List (ℕ × FencedLines)) : Prop where
  layout : Layout IsClean 0 ls gs
  openers : ∀ p ∈ gs, Marker.find p.2.fence.rest = []

namespace IsCleanLayout

variable {ls : List Line} {gs : List (ℕ × FencedLines)} {o : Outline}

/-- No block is excluded. -/
theorem isExcludedFrom_eq_false (h : IsCleanLayout ls gs) (ho : o.records = Layout.records gs)
    {b : Block} (hb : b ∈ o.blocks) (target : Target) : b.isExcludedFrom target = false := by
  rw [Outline.blocks, Outline.mem_blocks_iff, ho, Layout.mem_records_iff] at hb
  obtain ⟨p, hp, hrec⟩ := hb
  have hfind : Marker.find p.2.fence.info = [] := (Marker.find_trim _).trans (h.openers p hp)
  have hinfo : b.info = Info.parse p.2.fence.info := by
    rw [FencedLines.record, Scan.recordOf] at hrec
    split_ifs at hrec
    cases hrec
    rfl
  rw [Block.isExcludedFrom, hinfo, Info.parse_of_find_eq_nil hfind]
  cases target <;> rfl

theorem find_of_isProse (h : IsCleanLayout ls gs) (ho : o.records = Layout.records gs) {e : Entry}
    (he : e ∈ Entry.numbered 1 ls) (hp : Prose.isProse o e = true) : Marker.find e.text = [] := by
  have hunfenced := Prose.isFenced_of_isProse hp
  simp only [Prose.isProse, hunfenced, Bool.false_or, Bool.not_eq_true', Bool.or_eq_false_iff] at hp
  rcases h.layout.holds_or_of_mem he with ⟨p, hmem, hholds⟩ | hs | hb | hfind
  · rw [Outline.isFenced, List.any_eq_false, ho] at hunfenced
    exact absurd hholds (hunfenced _ (Layout.mem_records_iff.mpr ⟨p, hmem, rfl⟩))
  · rw [hp.2] at hs
    cases hs
  · rw [hp.1] at hb
    cases hb
  · exact hfind

/-- No line loses a marker. -/
theorem clean_eq (h : IsCleanLayout ls gs) (ho : o.records = Layout.records gs) {e : Entry}
    (he : e ∈ Entry.numbered 1 ls) : clean o e = e.text := by
  cases hp : Prose.isProse o e with
  | true => rw [clean, hp, if_pos rfl, Marker.strip_of_find_eq_nil (h.find_of_isProse ho he hp)]
  | false =>
    rw [clean, hp, if_neg Bool.false_ne_true]
    split_ifs with hblock
    · obtain ⟨b, hb, hstart⟩ := List.any_eq_true.mp hblock
      rw [Outline.blocks, Outline.mem_blocks_iff, ho, Layout.mem_records_iff] at hb
      obtain ⟨p, hmem, hrec⟩ := hb
      have hn : e.number = p.1 + 1 := by
        have := congrArg Record.startLine hrec
        rw [FencedLines.startLine_record] at this
        rw [← beq_iff_eq.mp hstart, this]
        rfl
      rw [h.layout.text_of_mem hmem he hn]
      exact cleanOpener_of_find_eq_nil p.2.opens (h.openers p hmem)
    · rfl

/-- **A document without markers stays as it is**, for both targets. -/
theorem keptLines_eq (h : IsCleanLayout ls gs) (ho : o.records = Layout.records gs)
    (target : Target) : keptLines o target ls = Entry.numbered 1 ls := by
  have hdropped : dropped o target ls = [] :=
    dropped_eq_nil (fun b hb => h.isExcludedFrom_eq_false ho hb target)
      (fun e he hp => h.find_of_isProse ho he hp)
  rw [keptLines, hdropped]
  exact collect_eq_self (by simp) (fun e he => h.clean_eq ho he) true

end IsCleanLayout

end Exclusion

end Literate

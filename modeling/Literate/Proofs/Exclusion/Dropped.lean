import Mathlib
import Literate.Proofs.Exclusion.Unit
import Literate.Proofs.Outline.Layout

/-!
# Dropped lines

A record goes as a whole or stays as a whole: it goes when it is an excluded block or the output
attached to one, and prose units have no line in it.

* `Exclusion.removes`: the records that go.
* `Exclusion.mem_dropped_iff`: a line of a record is dropped exactly when the record goes.
* `Exclusion.mem_dropped_unfenced`: a line outside fences is dropped when a prose unit gives it up.
* `Exclusion.dropped_eq_nil`: without excluded blocks and markers no line is dropped.
-/

namespace Literate

open Text

namespace Exclusion

theorem mem_range {first last n : ℕ} : n ∈ range first last ↔ first ≤ n ∧ n ≤ last := by
  rw [range, List.mem_range'_1]
  omega

/-- Whether a record goes: an excluded block, or the output attached to one. -/
def removes (o : Outline) (target : Target) (ls : List Line) : Record → Bool
  | .block b => b.isExcludedFrom target
  | .output r => o.blocks.any fun b =>
      b.isExcludedFrom target && o.attachedOutput? ls b == some r

variable {o : Outline} {target : Target} {ls : List Line}

/-- The output attached to a block is one of the records. -/
theorem mem_records_of_attachedOutput? {b : Block} {r : OutputRegion}
    (h : o.attachedOutput? ls b = some r) : Record.output r ∈ o.records :=
  Outline.mem_outputs_iff.mp (List.mem_of_find?_eq_some h)

theorem mem_blockLines {b : Block} {n : ℕ} :
    n ∈ blockLines o ls b ↔ (Record.block b).holds n = true ∨
      ∃ r, o.attachedOutput? ls b = some r ∧ (Record.output r).holds n = true := by
  rw [blockLines, List.mem_append, mem_range, Record.holds_iff]
  cases h : o.attachedOutput? ls b with
  | none => simp [Record.startLine, Record.endLine]
  | some r => simp [mem_range, Record.holds_iff, Record.startLine, Record.endLine]

/-- No prose unit has a line in a record. -/
theorem isFenced_eq_false_of_excluded {u : ProseUnit} {e : Entry} {es : List Entry}
    (hu : u ∈ Prose.units o es) (he : e ∈ u.excluded target) : o.isFenced e.number = false :=
  (Prose.mem_units hu (ProseUnit.mem_of_mem_excluded he)).2.1

/-- **Records go as a whole.**  A line of a record is dropped exactly when the record goes. -/
theorem mem_dropped_iff (hapart : o.Apart) {r : Record} (hr : r ∈ o.records) {n : ℕ}
    (hn : r.holds n = true) : n ∈ dropped o target ls ↔ removes o target ls r = true := by
  rw [dropped, List.mem_append, List.mem_flatMap, List.mem_flatMap]
  constructor
  · rintro (⟨b, hb, hmem⟩ | ⟨u, hu, hmem⟩)
    · obtain ⟨hb, hexcl⟩ := List.mem_filter.mp hb
      rcases mem_blockLines.mp hmem with h | ⟨q, hq, h⟩
      · rw [hapart r hr _ (Outline.mem_blocks_iff.mp hb) n hn h]
        exact hexcl
      · rw [hapart r hr _ (mem_records_of_attachedOutput? hq) n hn h, removes, List.any_eq_true]
        exact ⟨b, hb, by simp [hexcl, hq]⟩
    · exfalso
      obtain ⟨e, he, rfl⟩ := List.mem_map.mp hmem
      have hfenced : o.isFenced e.number = true := List.any_eq_true.mpr ⟨r, hr, hn⟩
      rw [isFenced_eq_false_of_excluded hu he] at hfenced
      cases hfenced
  · intro hrem
    left
    cases r with
    | block b =>
      exact ⟨b, List.mem_filter.mpr ⟨Outline.mem_blocks_iff.mpr hr, hrem⟩,
        mem_blockLines.mpr (.inl hn)⟩
    | output q =>
      obtain ⟨b, hb, hatt⟩ := List.any_eq_true.mp hrem
      rw [Bool.and_eq_true, beq_iff_eq] at hatt
      exact ⟨b, List.mem_filter.mpr ⟨hb, hatt.1⟩, mem_blockLines.mpr (.inr ⟨q, hatt.2, hn⟩)⟩

theorem contains_dropped_eq (hapart : o.Apart) {r : Record} (hr : r ∈ o.records) {n : ℕ}
    (hn : r.holds n = true) : (dropped o target ls).contains n = removes o target ls r := by
  rw [Bool.eq_iff_iff, List.contains_iff_mem]
  exact mem_dropped_iff hapart hr hn

/-- A line outside fences is dropped exactly when a prose unit gives it up. -/
theorem mem_dropped_unfenced {n : ℕ} (hn : o.isFenced n = false) :
    n ∈ dropped o target ls ↔ ∃ u ∈ Prose.units o (Entry.numbered 1 ls),
      ∃ e ∈ u.excluded target, e.number = n := by
  have hholds : ∀ r ∈ o.records, ¬r.holds n = true := List.any_eq_false.mp hn
  rw [dropped, List.mem_append, List.mem_flatMap, List.mem_flatMap]
  simp only [List.mem_map]
  refine or_iff_right ?_
  rintro ⟨b, hb, hmem⟩
  rcases mem_blockLines.mp hmem with h | ⟨q, hq, h⟩
  · exact hholds _ (Outline.mem_blocks_iff.mp (List.mem_of_mem_filter hb)) h
  · exact hholds _ (mem_records_of_attachedOutput? hq) h

/-- Without excluded blocks and markers in prose no line is dropped. -/
theorem dropped_eq_nil (hblocks : ∀ b ∈ o.blocks, b.isExcludedFrom target = false)
    (hprose : ∀ e ∈ Entry.numbered 1 ls, Prose.isProse o e = true → Marker.find e.text = []) :
    dropped o target ls = [] := by
  have hnone : o.blocks.filter (·.isExcludedFrom target) = [] := by
    rw [List.filter_eq_nil_iff]
    intro b hb
    simp [hblocks b hb]
  have hunits : ∀ u ∈ Prose.units o (Entry.numbered 1 ls), u.excluded target = [] := by
    intro u hu
    refine ProseUnit.excluded_eq_nil fun e he => ?_
    obtain ⟨hmem, -, hp | hb⟩ := Prose.mem_units hu he
    · exact hprose e hmem hp
    · exact Marker.find_of_allBlank hb
  rw [dropped, hnone, List.flatMap_nil, List.nil_append, List.flatMap_eq_nil_iff]
  intro u hu
  rw [hunits u hu]
  rfl

end Exclusion

end Literate

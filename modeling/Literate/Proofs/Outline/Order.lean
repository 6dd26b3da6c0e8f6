import Literate.Proofs.Outline.Reading

/-!
# The order of what a document holds

Records and slides come out of the scanner in the order of their lines and never overlap: a record
takes all its lines, a slide the line it starts at.  The invariant is the number of lines at the
front of the document that nothing still to come can reach back to; an open paragraph holds it
below its first line, because an underline may yet make that line the start of a slide.

* `Scan.settled`: the number of lines that are settled.
* `Reading.settled_le`: items lie above what was settled before them, in order.
* `Reading.ordered`: the items of a reading are ordered and disjoint.
-/

namespace Literate

open Text

namespace Item

/-- The first line of an item. -/
def firstLine : Item → ℕ
  | record r => r.startLine
  | slide s => s.startLine

/-- The last line of an item; of a slide only the line it starts at is known. -/
def lastLine : Item → ℕ
  | record r => r.endLine
  | slide s => s.startLine

/-- All items of the list lie after line `low` and not after line `high`, in order and without
overlap. -/
structure Ordered (low high : ℕ) (items : List Item) : Prop where
  above : ∀ i ∈ items, low < i.firstLine
  proper : ∀ i ∈ items, i.firstLine ≤ i.lastLine
  below : ∀ i ∈ items, i.lastLine ≤ high
  pairwise : items.Pairwise fun i j => i.lastLine < j.firstLine

namespace Ordered

variable {low mid high : ℕ} {items more : List Item}

theorem nil (low high : ℕ) : Ordered low high [] :=
  ⟨by simp, by simp, by simp, .nil⟩

theorem singleton {i : Item} (h1 : low < i.firstLine) (h2 : i.firstLine ≤ i.lastLine)
    (h3 : i.lastLine ≤ high) : Ordered low high [i] :=
  ⟨by simpa using h1, by simpa using h2, by simpa using h3, List.pairwise_singleton _ _⟩

theorem append (h : Ordered low mid items) (h' : Ordered mid high more) (hlow : low ≤ mid)
    (hhigh : mid ≤ high) : Ordered low high (items ++ more) := by
  refine ⟨?_, ?_, ?_, ?_⟩
  · intro i hi
    rcases List.mem_append.mp hi with hi | hi
    · exact h.above i hi
    · exact lt_of_le_of_lt hlow (h'.above i hi)
  · intro i hi
    rcases List.mem_append.mp hi with hi | hi
    · exact h.proper i hi
    · exact h'.proper i hi
  · intro i hi
    rcases List.mem_append.mp hi with hi | hi
    · exact le_trans (h.below i hi) hhigh
    · exact h'.below i hi
  · rw [List.pairwise_append]
    exact ⟨h.pairwise, h'.pairwise, fun i hi j hj => lt_of_le_of_lt (h.below i hi) (h'.above j hj)⟩

/-- Two items of an ordered list are the same or lie apart. -/
theorem trichotomy (h : Ordered low high items) {i j : Item} (hi : i ∈ items) (hj : j ∈ items) :
    i = j ∨ i.lastLine < j.firstLine ∨ j.lastLine < i.firstLine := by
  by_cases hij : i = j
  · exact .inl hij
  · right
    have hapart : items.Pairwise fun i j => i.lastLine < j.firstLine ∨ j.lastLine < i.firstLine :=
      h.pairwise.imp .inl
    have : Std.Symm fun i j : Item => i.lastLine < j.firstLine ∨ j.lastLine < i.firstLine :=
      ⟨fun _ _ => Or.symm⟩
    exact hapart.forall hi hj hij

end Ordered

end Item

namespace Scan

/-- The number of lines at the front that no item still to come starts at. -/
def settled (s : Scan) : ℕ :=
  match s.mode with
  | .prose (some p) => p.startLine - 1
  | _ => s.count

/-- An open paragraph starts at a line that was read. -/
def Anchored (s : Scan) : Prop :=
  ∀ p, s.mode = .prose (some p) → 1 ≤ p.startLine ∧ p.startLine ≤ s.count

theorem settled_le_count {s : Scan} (h : s.Anchored) : s.settled ≤ s.count := by
  unfold settled
  split
  · rename_i p hp
    have := h p hp
    omega
  · exact le_rfl

@[simp] theorem settled_none (n : ℕ) (title : Option Text) :
    settled ⟨n, .prose none, title⟩ = n := rfl

theorem anchored_none (n : ℕ) (title : Option Text) : Anchored ⟨n, .prose none, title⟩ := by
  intro p hp; cases hp

/-- A line outside fences settles no fewer lines, and an item it finishes lies between. -/
theorem ProseStep.settled_le {s : Scan} {l : Line} {open? : Option Paragraph}
    {next : Scan × Option Item} (h : ProseStep s (s.count + 1) l open? next)
    (hs : s.mode = .prose open?) (ha : s.Anchored) :
    next.1.Anchored ∧ s.settled ≤ next.1.settled ∧
      Item.Ordered s.settled next.1.settled next.2.toList := by
  have hle := settled_le_count ha
  cases h with
  | blank | underline2 | aside =>
    refine ⟨anchored_none _ _, ?_, .nil _ _⟩
    simp only [skip, settled_none]; omega
  | @underline1 p =>
    have hp := ha p hs
    have hset : s.settled = p.startLine - 1 := by simp [settled, hs]
    refine ⟨anchored_none _ _, ?_, .singleton ?_ le_rfl ?_⟩
    · simp only [slide, settled_none]; omega
    · simp only [Item.firstLine]; omega
    · simp only [Item.lastLine, slide, settled_none]; omega
  | rule | heading =>
    refine ⟨anchored_none _ _, ?_, .singleton ?_ le_rfl ?_⟩
    · simp only [slide, settled_none]; omega
    · simp only [Item.firstLine]; omega
    · simp only [Item.lastLine, slide, settled_none]; omega
  | begins =>
    refine ⟨?_, ?_, .nil _ _⟩
    · intro p hp
      cases hp
      exact ⟨by simp, by simp [skip]⟩
    · simp [skip, settled, hs]
  | @«extends» p =>
    have hp := ha p hs
    refine ⟨?_, ?_, .nil _ _⟩
    · intro q hq
      cases hq
      exact ⟨hp.1, by simp only [skip]; omega⟩
    · simp [skip, settled, hs]

end Scan

namespace Reading

variable {s t : Scan} {ls : List Line} {items : List Item}

/-- **The order of a reading.**  Its items lie above the lines settled before it, not above those
settled after it, in order and without overlap. -/
theorem settled_le (h : Reading s ls t items) (ha : s.Anchored) :
    t.Anchored ∧ s.settled ≤ t.settled ∧ Item.Ordered s.settled t.settled items := by
  induction h with
  | nil _ => exact ⟨ha, le_rfl, .nil _ _⟩
  | line hs hl rest ih =>
    obtain ⟨ha', hle, hord⟩ := (Scan.stepProse_spec _ _ _ hl).settled_le hs ha
    obtain ⟨hat, hle', hord'⟩ := ih ha'
    exact ⟨hat, hle.trans hle', hord.append hord' hle hle'⟩
  | @range s t open? ls items hs g rest ih =>
    have hset := Scan.settled_le_count ha
    obtain ⟨hat, hle', hord'⟩ := ih (Scan.anchored_none _ _)
    rw [Scan.settled_none] at hle' hord'
    have hone : Item.Ordered s.settled (s.count + g.height) [.record (g.record s.count)] := by
      refine .singleton ?_ ?_ ?_
      · simp only [Item.firstLine, FencedLines.startLine_record]; omega
      · simp only [Item.firstLine, Item.lastLine, FencedLines.startLine_record,
          FencedLines.endLine_record, FencedLines.height]
        omega
      · simp only [Item.lastLine, FencedLines.endLine_record]; omega
    exact ⟨hat, by omega, hone.append hord' (by omega) hle'⟩

/-- The items of a reading from the start of a document lie within its lines, in order. -/
theorem ordered (h : Reading Scan.start ls t items) : Item.Ordered 0 ls.length items := by
  obtain ⟨hat, -, hord⟩ := h.settled_le (Scan.anchored_none 0 none)
  have hcount : t.count = ls.length := by rw [h.count_end]; simp [Scan.start]
  have hle := Scan.settled_le_count hat
  exact ⟨hord.above, hord.proper, fun i hi => (hord.below i hi).trans (by omega), hord.pairwise⟩

end Reading

end Literate

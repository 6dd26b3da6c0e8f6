import Mathlib
import Literate.Proofs.Outline.Parse

/-!
# The layout of a document

For the records of a document it only matters which lines stand outside fences and where the fenced
ranges are.  A `Layout` says just that; every text whose lines have a layout can be read, and its
records are the ranges.

* `Layout`: lines outside fences, all with a property, and fenced ranges.
* `Outline.exists_layout`, `Outline.parse_of_layout`: documents that can be read have a layout, and
  the other way round.
* `Layout.append`, `Layout.shift`: layouts are put together and moved.
* `Layout.apart`, `Layout.apart_outline`: the ranges follow each other without overlap.
* `Layout.exists_holds`: every fence line is in a range.
-/

namespace Literate

open Text

theorem Record.holds_iff {r : Record} {n : ℕ} :
    r.holds n = true ↔ r.startLine ≤ n ∧ n ≤ r.endLine := by
  simp [holds]

/-- Lines from after line `n` on: some stand outside fences and have the property `P`, the others
form the fenced ranges, each given with the number of lines before it. -/
inductive Layout (P : Line → Prop) : ℕ → List Line → List (ℕ × FencedLines) → Prop
  | nil {n} : Layout P n [] []
  | line {n l ls gs} (hl : Fence.ofLine? l = none) (hp : P l) (rest : Layout P (n + 1) ls gs) :
      Layout P n (l :: ls) gs
  | range {n ls gs} (g : FencedLines) (rest : Layout P (n + g.height) ls gs) :
      Layout P n (g.lines ++ ls) ((n, g) :: gs)

/-- The records of the ranges of a layout. -/
def Layout.records (gs : List (ℕ × FencedLines)) : List Record := gs.map fun p => p.2.record p.1

/-- What was read has a layout. -/
theorem Reading.exists_layout {s t : Scan} {ls : List Line} {items : List Item}
    (h : Reading s ls t items) :
    ∃ gs, Layout (fun _ => True) s.count ls gs ∧
      items.filterMap Item.record? = Layout.records gs := by
  induction h with
  | nil _ => exact ⟨[], .nil, rfl⟩
  | @line s t open? l ls items hs hl rest ih =>
    obtain ⟨gs, hgs, hitems⟩ := ih
    rw [(Scan.stepProse_mode s _ open? hl).1] at hgs
    refine ⟨gs, .line hl trivial hgs, ?_⟩
    rw [List.filterMap_append, hitems, Scan.stepProse_records s _ open? hl, List.nil_append]
  | @range s t open? ls items hs g rest ih =>
    obtain ⟨gs, hgs, hitems⟩ := ih
    exact ⟨(s.count, g) :: gs, .range g hgs, congrArg (g.record s.count :: ·) hitems⟩

namespace Layout

variable {P : Line → Prop} {n : ℕ} {ls : List Line} {gs : List (ℕ × FencedLines)}

/-- Lines with a layout can be read from every state outside fences. -/
theorem exists_reading (h : Layout P n ls gs) {s : Scan} {open? : Option Paragraph}
    (hn : s.count = n) (hs : s.mode = .prose open?) :
    ∃ t items, Reading s ls t items ∧ items.filterMap Item.record? = records gs := by
  induction h generalizing s open? with
  | nil => exact ⟨s, [], .nil hs, rfl⟩
  | @line n l ls gs hl hp rest ih =>
    subst hn
    obtain ⟨hcount, next?, hmode⟩ := Scan.stepProse_mode s (s.count + 1) open? hl
    obtain ⟨t, items, hread, hitems⟩ := ih hcount hmode
    refine ⟨t, _, .line hs hl hread, ?_⟩
    rw [List.filterMap_append, hitems, Scan.stepProse_records s _ open? hl, List.nil_append]
  | @range n ls gs g rest ih =>
    subst hn
    obtain ⟨t, items, hread, hitems⟩ := ih (s := ⟨s.count + g.height, .prose none, s.title⟩)
      rfl rfl
    exact ⟨t, _, .range hs g hread, congrArg (g.record s.count :: ·) hitems⟩

/-- Lines outside fences. -/
theorem plain (n : ℕ) (hl : ∀ l ∈ ls, Fence.ofLine? l = none) (hp : ∀ l ∈ ls, P l) :
    Layout P n ls [] := by
  induction ls generalizing n with
  | nil => exact .nil
  | cons l ls ih =>
    rw [List.forall_mem_cons] at hl hp
    exact .line hl.1 hp.1 (ih (n + 1) hl.2 hp.2)

/-- A fenced range and nothing else. -/
theorem single (n : ℕ) (g : FencedLines) : Layout P n g.lines [(n, g)] := by
  have h := Layout.range (P := P) g (n := n) .nil
  rwa [List.append_nil] at h

theorem append {ms : List Line} {hs : List (ℕ × FencedLines)} (h : Layout P n ls gs)
    (h' : Layout P (n + ls.length) ms hs) : Layout P n (ls ++ ms) (gs ++ hs) := by
  induction h with
  | nil => exact h'
  | @line n l ls gs hl hp rest ih =>
    rw [List.length_cons, show n + (ls.length + 1) = n + 1 + ls.length by omega] at h'
    exact .line hl hp (ih h')
  | @range n ls gs g rest ih =>
    rw [List.length_append, FencedLines.length_lines, ← Nat.add_assoc] at h'
    rw [List.append_assoc, List.cons_append]
    exact .range g (ih h')

/-- The same lines `k` lines further down. -/
theorem shift (h : Layout P n ls gs) (k : ℕ) :
    Layout P (n + k) ls (gs.map fun p => (p.1 + k, p.2)) := by
  induction h with
  | nil => exact .nil
  | @line n l ls gs hl hp rest ih =>
    rw [show n + 1 + k = n + k + 1 by omega] at ih
    exact .line hl hp ih
  | @range n ls gs g rest ih =>
    rw [show n + g.height + k = n + k + g.height by omega] at ih
    exact .range g ih

/-- A blank last line is no part of a range. -/
theorem of_concat_blank {l : Line} (h : Layout P n (ls ++ [l]) gs) (hl : allBlank l = true) :
    Layout P n ls gs := by
  generalize hall : ls ++ [l] = all at h
  induction h generalizing ls with
  | nil => simp at hall
  | @line n m ms gs hm hp rest ih =>
    cases ls with
    | nil =>
      rw [List.nil_append, List.cons.injEq] at hall
      obtain ⟨-, rfl⟩ := hall
      cases rest
      exact .nil
    | cons m' ls =>
      rw [List.cons_append, List.cons.injEq] at hall
      obtain ⟨rfl, hall⟩ := hall
      exact .line hm hp (ih hall)
  | @range n ms gs g rest ih =>
    rcases List.eq_nil_or_concat' ms with rfl | ⟨ms, m, rfl⟩
    · -- the line would close the range
      have hlast := congrArg List.getLast? hall
      rw [List.append_nil, List.getLast?_concat] at hlast
      obtain rfl : l = g.closer := by simpa [FencedLines.lines, List.getLast?_cons] using hlast
      rw [Fence.allBlank_eq_false_of_ofLine? g.ends] at hl
      cases hl
    · rw [← List.append_assoc, List.append_singleton_inj] at hall
      obtain ⟨rfl, rfl⟩ := hall
      exact .range g (ih rfl)

/-- The ranges follow each other without overlap. -/
theorem apart (h : Layout P n ls gs) :
    (∀ p ∈ gs, n ≤ p.1) ∧ gs.Pairwise fun p q => p.1 + p.2.height ≤ q.1 := by
  induction h with
  | nil => exact ⟨by simp, .nil⟩
  | line hl hp rest ih =>
    refine ⟨fun p hp => ?_, ih.2⟩
    have := ih.1 p hp
    omega
  | range g rest ih =>
    refine ⟨fun p hp => ?_, List.pairwise_cons.mpr ⟨fun p hp => ih.1 p hp, ih.2⟩⟩
    rcases List.mem_cons.mp hp with rfl | hp
    · exact le_rfl
    · have := ih.1 p hp
      omega

/-- The lines of a range stand where the layout says. -/
theorem exists_split (h : Layout P n ls gs) {p : ℕ × FencedLines} (hp : p ∈ gs) :
    ∃ pre post, ls = pre ++ p.2.lines ++ post ∧ p.1 = n + pre.length := by
  induction h with
  | nil => cases hp
  | @line n l ls gs hl _ rest ih =>
    obtain ⟨pre, post, rfl, hn⟩ := ih hp
    exact ⟨l :: pre, post, rfl, by rw [List.length_cons]; omega⟩
  | @range n ls gs g rest ih =>
    rcases List.mem_cons.mp hp with rfl | hp
    · exact ⟨[], ls, rfl, rfl⟩
    · obtain ⟨pre, post, rfl, hn⟩ := ih hp
      refine ⟨g.lines ++ pre, post, by simp, ?_⟩
      rw [List.length_append, FencedLines.length_lines]
      omega

/-- A fence line is in a range. -/
theorem exists_holds (h : Layout P n ls gs) {k : ℕ} {l : Line} {f : Fence} (hk : ls[k]? = some l)
    (hl : Fence.ofLine? l = some f) : ∃ p ∈ gs, (p.2.record p.1).holds (n + k + 1) = true := by
  induction h generalizing k with
  | nil => cases hk
  | @line n m ls gs hm hp rest ih =>
    cases k with
    | zero =>
      rw [List.getElem?_cons_zero, Option.some.injEq] at hk
      rw [hk, hl] at hm
      cases hm
    | succ k =>
      rw [List.getElem?_cons_succ] at hk
      rw [show n + (k + 1) + 1 = n + 1 + k + 1 by omega]
      exact ih hk
  | @range n ls gs g rest ih =>
    by_cases hlt : k < g.height
    · have hholds : (g.record n).holds (n + k + 1) = true := by
        rw [Record.holds_iff, FencedLines.startLine_record, FencedLines.endLine_record]
        omega
      exact ⟨(n, g), by simp, hholds⟩
    · rw [List.getElem?_append_right (by rw [FencedLines.length_lines]; omega),
        FencedLines.length_lines] at hk
      obtain ⟨p, hp, hholds⟩ := ih hk
      rw [show n + g.height + (k - g.height) + 1 = n + k + 1 by omega] at hholds
      exact ⟨p, by simp [hp], hholds⟩

theorem mem_records_iff {r : Record} : r ∈ records gs ↔ ∃ p ∈ gs, p.2.record p.1 = r :=
  List.mem_map

end Layout

/-- No line belongs to two records. -/
def Outline.Apart (o : Outline) : Prop :=
  ∀ r ∈ o.records, ∀ q ∈ o.records, ∀ n, r.holds n = true → q.holds n = true → r = q

theorem Layout.apart_outline {P : Line → Prop} {n : ℕ} {ls : List Line}
    {gs : List (ℕ × FencedLines)} (h : Layout P n ls gs) {o : Outline}
    (ho : o.records = Layout.records gs) : o.Apart := by
  intro r hr q hq m hrm hqm
  rw [ho, mem_records_iff] at hr hq
  obtain ⟨p, hp, rfl⟩ := hr
  obtain ⟨p', hp', rfl⟩ := hq
  by_cases hpp : p = p'
  · rw [hpp]
  · exfalso
    have hapart : gs.Pairwise fun p q => p.1 + p.2.height ≤ q.1 ∨ q.1 + q.2.height ≤ p.1 :=
      h.apart.2.imp .inl
    have : Std.Symm fun p q : ℕ × FencedLines =>
        p.1 + p.2.height ≤ q.1 ∨ q.1 + q.2.height ≤ p.1 := ⟨fun _ _ => Or.symm⟩
    have := hapart.forall hp hp' hpp
    simp only [Record.holds_iff, FencedLines.startLine_record, FencedLines.endLine_record]
      at hrm hqm
    omega

namespace Outline

/-- Lines that can be read have a layout. -/
theorem exists_layout_of_ofLines {ls : List Line} {o : Outline} (h : ofLines ls = .ok o) :
    ∃ gs, Layout (fun _ => True) 0 ls gs ∧ o.records = Layout.records gs := by
  obtain ⟨last, items, hread, rfl⟩ := ofLines_eq_ok_iff.mp h
  exact hread.exists_layout

/-- A document that can be read has a layout. -/
theorem exists_layout {t : Text} {o : Outline} (h : Outline.parse t = .ok o) :
    ∃ gs, Layout (fun _ => True) 0 (lines t) gs ∧ o.records = Layout.records gs :=
  exists_layout_of_ofLines h

/-- A document with a layout can be read. -/
theorem parse_of_layout {P : Line → Prop} {t : Text} {gs : List (ℕ × FencedLines)}
    (h : Layout P 0 (lines t) gs) :
    ∃ o, Outline.parse t = .ok o ∧ o.records = Layout.records gs := by
  obtain ⟨last, items, hread, hitems⟩ := h.exists_reading (s := Scan.start) rfl rfl
  exact ⟨_, parse_eq_ok_iff.mpr ⟨last, items, hread, rfl⟩, hitems⟩

end Outline

end Literate

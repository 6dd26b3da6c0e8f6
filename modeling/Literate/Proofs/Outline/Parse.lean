import Mathlib
import Literate.Proofs.Outline.Order

/-!
# What a document is parsed to

The outline of a document is the list of items of its reading, taken apart into records and slides,
with the implicit slide in front when content comes before the first slide.

* `Outline.parse_eq_ok_iff`: a document has an outline exactly when its lines have a reading.
* `Outline.withImplicit_cases`, `Outline.withImplicit_eq_nil_iff`: the implicit slide.
* `Outline.outputAt?_eq_some_iff`: an output region is found by its first line.
-/

namespace Literate

open Text

namespace Outline

/-- What lines are read to. -/
theorem ofLines_eq_ok_iff {ls : List Line} {o : Outline} :
    ofLines ls = .ok o ↔ ∃ last items, Reading Scan.start ls last items ∧
      o = ⟨ls.length, items.filterMap Item.record?,
        withImplicit ls (items.filterMap Item.slide?)⟩ := by
  rw [ofLines]
  constructor
  · intro h
    cases hf : Scan.start.finish ls with
    | error e => simp [hf] at h
    | ok items =>
      obtain ⟨last, hr⟩ := (Scan.finish_eq_ok_iff rfl).mp hf
      simp only [hf, Except.ok.injEq] at h
      exact ⟨last, items, hr, h.symm⟩
  · rintro ⟨last, items, hr, rfl⟩
    rw [(Scan.finish_eq_ok_iff rfl).mpr ⟨last, hr⟩]

/-- What a document is read to. -/
theorem parse_eq_ok_iff {t : Text} {o : Outline} :
    Outline.parse t = .ok o ↔ ∃ last items, Reading Scan.start (lines t) last items ∧
      o = ⟨(lines t).length, items.filterMap Item.record?,
        withImplicit (lines t) (items.filterMap Item.slide?)⟩ := ofLines_eq_ok_iff

/-- The list of what is under one constructor has the members that the constructor puts in. -/
theorem mem_filterMap_iff {α β : Type} {p : α → Option β} {c : β → α}
    (h : ∀ a b, p a = some b ↔ a = c b) {as : List α} {b : β} : b ∈ as.filterMap p ↔ c b ∈ as := by
  simp [List.mem_filterMap, h]

theorem mem_records_iff {items : List Item} {r : Record} :
    r ∈ items.filterMap Item.record? ↔ Item.record r ∈ items :=
  mem_filterMap_iff fun i r => by cases i <;> simp [Item.record?]

theorem mem_slides_iff {items : List Item} {s : Slide} :
    s ∈ items.filterMap Item.slide? ↔ Item.slide s ∈ items :=
  mem_filterMap_iff fun i s => by cases i <;> simp [Item.slide?]

theorem mem_blocks_iff {records : List Record} {b : Block} :
    b ∈ records.filterMap Record.block? ↔ Record.block b ∈ records :=
  mem_filterMap_iff fun r b => by cases r <;> simp [Record.block?]

theorem mem_outputs_iff {records : List Record} {r : OutputRegion} :
    r ∈ records.filterMap Record.output? ↔ Record.output r ∈ records :=
  mem_filterMap_iff fun q r => by cases q <;> simp [Record.output?]

/-- The implicit slide, where there is one, starts at line one and before all other slides. -/
theorem withImplicit_cases (ls : List Line) (slides : List Slide) :
    withImplicit ls slides = slides ∨
      withImplicit ls slides = ⟨1, [], .implicit⟩ :: slides ∧
        ∀ s ∈ slides.head?, 1 < s.startLine := by
  unfold withImplicit
  cases hf : firstContent? ls with
  | none => exact .inl rfl
  | some first =>
    have h1 : 1 ≤ first := by
      obtain ⟨i, -, rfl⟩ := Option.map_eq_some_iff.mp hf
      omega
    cases slides with
    | nil => exact .inr ⟨rfl, by simp⟩
    | cons s rest =>
      dsimp only
      split_ifs with hlt
      · exact .inr ⟨rfl, by simp; omega⟩
      · exact .inl rfl

theorem firstContent?_eq_none_iff {ls : List Line} :
    firstContent? ls = none ↔ ∀ l ∈ ls, allBlank l = true := by
  simp [firstContent?]

theorem firstContent?_append {front : List Line} (h : ∃ l ∈ front, allBlank l = false) :
    ∃ n, 1 ≤ n ∧ n ≤ front.length ∧ ∀ ls, firstContent? (front ++ ls) = some n := by
  obtain ⟨l, hl, hb⟩ := h
  cases hf : front.findIdx? (!allBlank ·) with
  | none =>
    have := List.findIdx?_eq_none_iff.mp hf l hl
    simp [hb] at this
  | some i =>
    obtain ⟨hi, -⟩ := List.findIdx?_eq_some_iff_getElem.mp hf
    exact ⟨i + 1, by omega, by omega, fun ls => by
      simp [firstContent?, List.findIdx?_append, hf]⟩

/-- Unless all lines are blank there is a slide. -/
theorem withImplicit_eq_nil_iff {ls : List Line} {slides : List Slide} :
    withImplicit ls slides = [] ↔ (∀ l ∈ ls, allBlank l = true) ∧ slides = [] := by
  rw [← firstContent?_eq_none_iff, withImplicit]
  cases firstContent? ls with
  | none => simp
  | some first =>
    cases slides with
    | nil => simp
    | cons s rest => dsimp only; split_ifs <;> simp

/-- A document of blank lines holds no item. -/
theorem items_eq_nil_of_allBlank {last : Scan} {ls : List Line} {items : List Item}
    (h : Reading Scan.start ls last items) (hb : ∀ l ∈ ls, allBlank l = true) : items = [] := by
  have hblank := Reading.blanks none hb 0
  have heq := h.run_eq.symm.trans hblank.run_eq
  cases heq
  rfl

/-- In a parsed document a line starts at most one output region. -/
theorem outputAt?_eq_some_iff {t : Text} {o : Outline} (h : Outline.parse t = .ok o) {n : ℕ}
    {r : OutputRegion} : o.outputAt? n = some r ↔ r ∈ o.outputs ∧ r.startLine = n := by
  obtain ⟨last, items, hread, ho⟩ := parse_eq_ok_iff.mp h
  have hmem : ∀ {q}, q ∈ o.outputs → Item.record (.output q) ∈ items := by
    intro q hq
    rw [outputs, mem_outputs_iff, ho] at hq
    exact mem_records_iff.mp hq
  constructor
  · intro hfind
    exact ⟨List.mem_of_find?_eq_some hfind, by simpa using List.find?_some hfind⟩
  · rintro ⟨hr, rfl⟩
    cases hfind : outputAt? _ r.startLine with
    | none =>
      have := List.find?_eq_none.mp hfind r hr
      simp at this
    | some q =>
      have hq : q.startLine = r.startLine := by simpa using List.find?_some hfind
      have hq' := hmem (List.mem_of_find?_eq_some hfind)
      have hproper : r.startLine ≤ r.endLine := hread.ordered.proper _ (hmem hr)
      have hproper' : q.startLine ≤ q.endLine := hread.ordered.proper _ hq'
      rcases hread.ordered.trichotomy hq' (hmem hr) with heq | hlt | hlt
      · cases heq; rfl
      · simp only [Item.lastLine, Item.firstLine, Record.endLine, Record.startLine] at hlt; omega
      · simp only [Item.lastLine, Item.firstLine, Record.endLine, Record.startLine] at hlt; omega

end Outline

end Literate

import Mathlib
import Literate.Proofs.Outline.Parse

/-!
# Slide spans

The spans of the slides cut a document into consecutive ranges of lines, and no cut goes through a
fenced record.

* `spansFrom_flatMap`: spans that start at increasing lines cover all lines once, in order.
* `slides_increasing`: the slides of a document start at increasing lines.
* `slideSpans_partition`: the spans partition every document that has a line with content, and
  every record lies in one of them.
-/

namespace Literate

open Text

/-- The lines of a span. -/
def Span.lines (p : Span) : List ℕ := List.range' p.first (p.last + 1 - p.first)

@[simp] theorem Span.mem_lines {p : Span} {n : ℕ} : n ∈ p.lines ↔ p.first ≤ n ∧ n ≤ p.last := by
  rw [lines, List.mem_range'_1]
  omega

namespace Outline

/-! ## Spans that start at increasing lines -/

section Spans

variable {last first : ℕ} {slides : List Slide}

/-- The first span starts at `first`, and the slides start at increasing lines after it up to
`last`. -/
def StartsFrom (first last : ℕ) (slides : List Slide) : Prop :=
  (first :: slides.map Slide.startLine).Pairwise (· < ·) ∧
    ∀ n ∈ first :: slides.map Slide.startLine, n ≤ last

theorem StartsFrom.le (h : StartsFrom first last slides) : first ≤ last := h.2 first (by simp)

theorem StartsFrom.tail {s : Slide} (h : StartsFrom first last (s :: slides)) :
    first < s.startLine ∧ StartsFrom s.startLine last slides := by
  obtain ⟨hpair, hle⟩ := h
  rw [List.map_cons, List.pairwise_cons] at hpair
  refine ⟨hpair.1 _ (by simp), hpair.2, fun n hn => hle n ?_⟩
  simp only [List.map_cons, List.mem_cons] at hn ⊢
  tauto

/-- The spans of slides at increasing lines cover the lines from `first` to `last`, in order. -/
theorem spansFrom_flatMap (h : StartsFrom first last slides) :
    (spansFrom last first slides).flatMap Span.lines = List.range' first (last + 1 - first) := by
  induction slides generalizing first with
  | nil => simp [spansFrom, Span.lines]
  | cons s slides ih =>
    obtain ⟨hlt, htail⟩ := h.tail
    have hle := htail.le
    rw [spansFrom, List.flatMap_cons, ih htail, Span.lines]
    have hcut : s.startLine = first + (s.startLine - 1 + 1 - first) := by omega
    have hlen : last + 1 - first = (s.startLine - 1 + 1 - first) + (last + 1 - s.startLine) := by
      omega
    rw [hlen, ← List.range'_append_1, ← hcut]

/-- A span is not empty, and it ends where the document does or right before a slide. -/
theorem span_of_mem_spansFrom (h : StartsFrom first last slides) {p : Span}
    (hp : p ∈ spansFrom last first slides) :
    first ≤ p.first ∧ p.first ≤ p.last ∧
      (p.last = last ∨ ∃ s ∈ slides, s.startLine = p.last + 1) := by
  induction slides generalizing first with
  | nil =>
    simp only [spansFrom, List.mem_singleton] at hp
    subst hp
    exact ⟨le_rfl, h.le, .inl rfl⟩
  | cons s slides ih =>
    obtain ⟨hlt, htail⟩ := h.tail
    rcases List.mem_cons.mp hp with rfl | hp
    · exact ⟨le_rfl, by simp only; omega, .inr ⟨s, by simp, by simp only; omega⟩⟩
    · obtain ⟨h1, h2, h3 | ⟨u, hu, h3⟩⟩ := ih htail hp
      · exact ⟨by omega, h2, .inl h3⟩
      · exact ⟨by omega, h2, .inr ⟨u, by simp [hu], h3⟩⟩

/-- Every slide starts in its own span. -/
theorem forall₂_spansFrom {s : Slide} (hs : first ≤ s.startLine)
    (h : StartsFrom s.startLine last slides) :
    List.Forall₂ (fun s p => s.startLine ∈ Span.lines p) (s :: slides)
      (spansFrom last first slides) := by
  induction slides generalizing first s with
  | nil =>
    have := h.le
    exact .cons (by simpa using ⟨hs, this⟩) .nil
  | cons u slides ih =>
    obtain ⟨hlt, htail⟩ := h.tail
    refine .cons ?_ (ih le_rfl htail)
    simp only [Span.mem_lines]
    omega

theorem length_spansFrom : (spansFrom last first slides).length = slides.length + 1 := by
  induction slides generalizing first with
  | nil => rfl
  | cons s slides ih => rw [spansFrom, List.length_cons, ih, List.length_cons]

/-- Every slide has a span. -/
theorem length_slideSpans (o : Outline) : o.slideSpans.length = o.slides.length := by
  rw [slideSpans]
  cases o.slides with
  | nil => rfl
  | cons s slides => exact length_spansFrom

theorem head?_spansFrom : (spansFrom last first slides).head?.map Span.first = some first := by
  cases slides <;> rfl

theorem getLast?_spansFrom :
    (spansFrom last first slides).getLast?.map Span.last = some last := by
  induction slides generalizing first with
  | nil => rfl
  | cons s slides ih =>
    rw [spansFrom, List.getLast?_cons]
    have : (spansFrom last s.startLine slides).getLast?.map Span.last = some last := ih
    cases hl : (spansFrom last s.startLine slides).getLast? with
    | none => simp [hl] at this
    | some p => simpa [hl] using this

/-- Two spans that share a line are the same. -/
theorem eq_of_mem_spansFrom (h : StartsFrom first last slides) {p q : Span} {n : ℕ}
    (hp : p ∈ spansFrom last first slides) (hq : q ∈ spansFrom last first slides)
    (hnp : n ∈ p.lines) (hnq : n ∈ q.lines) : p = q := by
  induction slides generalizing first with
  | nil =>
    simp only [spansFrom, List.mem_singleton] at hp hq
    rw [hp, hq]
  | cons s slides ih =>
    obtain ⟨hlt, htail⟩ := h.tail
    rw [Span.mem_lines] at hnp hnq
    rcases List.mem_cons.mp hp with rfl | hp <;> rcases List.mem_cons.mp hq with rfl | hq
    · rfl
    · -- the first span ends before any other starts
      have := (span_of_mem_spansFrom htail hq).1
      simp only at hnp; omega
    · have := (span_of_mem_spansFrom htail hp).1
      simp only at hnq; omega
    · exact ih htail hp hq

/-- Every line lies in exactly one span. -/
theorem existsUnique_mem_spansFrom (h : StartsFrom first last slides) {n : ℕ} (h1 : first ≤ n)
    (h2 : n ≤ last) : ∃! p, p ∈ spansFrom last first slides ∧ n ∈ p.lines := by
  have hmem : n ∈ (spansFrom last first slides).flatMap Span.lines := by
    rw [spansFrom_flatMap h, List.mem_range'_1]; omega
  obtain ⟨p, hp, hn⟩ := List.mem_flatMap.mp hmem
  exact ⟨p, ⟨hp, hn⟩, fun q ⟨hq, hnq⟩ => eq_of_mem_spansFrom h hq hp hnq hn⟩

end Spans

/-! ## The slides of a document -/

theorem pairwise_slides {low high : ℕ} {items : List Item} (h : Item.Ordered low high items) :
    ((items.filterMap Item.slide?).map Slide.startLine).Pairwise (· < ·) := by
  rw [List.pairwise_map, List.pairwise_filterMap]
  refine h.pairwise.imp ?_
  intro i j hij s hs u hu
  cases i with
  | record _ => cases hs
  | slide _ =>
    cases j with
    | record _ => cases hu
    | slide _ => cases hs; cases hu; exact hij

/-- The implicit slide goes before slides that start after line one. -/
theorem pairwise_implicit {slides : List Slide}
    (hpair : (slides.map Slide.startLine).Pairwise (· < ·))
    (hhead : ∀ s ∈ slides.head?, 1 < s.startLine) :
    ((⟨1, [], .implicit⟩ :: slides).map Slide.startLine).Pairwise (· < ·) := by
  rw [List.map_cons, List.pairwise_cons]
  refine ⟨?_, hpair⟩
  intro n hn
  cases slides with
  | nil => cases hn
  | cons s slides =>
    have hs : 1 < s.startLine := hhead s (by simp)
    rw [List.map_cons] at hn hpair
    rcases List.mem_cons.mp hn with rfl | hn
    · exact hs
    · have := (List.pairwise_cons.mp hpair).1 n hn
      simp only; omega

/-- The slides of a document start at increasing lines, all of them lines of the document. -/
theorem slides_increasing {last : Scan} {ls : List Line} {items : List Item}
    (h : Reading Scan.start ls last items) :
    ((withImplicit ls (items.filterMap Item.slide?)).map Slide.startLine).Pairwise (· < ·) ∧
      ∀ s ∈ withImplicit ls (items.filterMap Item.slide?),
        1 ≤ s.startLine ∧ s.startLine ≤ ls.length := by
  have hord := h.ordered
  have hpair := pairwise_slides hord
  have hin : ∀ s ∈ items.filterMap Item.slide?, 1 ≤ s.startLine ∧ s.startLine ≤ ls.length := by
    intro s hs
    rw [mem_slides_iff] at hs
    exact ⟨hord.above _ hs, hord.below _ hs⟩
  rcases withImplicit_cases ls (items.filterMap Item.slide?) with heq | ⟨heq, hhead⟩
  · rw [heq]; exact ⟨hpair, hin⟩
  · have hne : ls ≠ [] := by
      rintro rfl
      simp [withImplicit, firstContent?] at heq
    have hlen := List.length_pos_iff.mpr hne
    rw [heq]
    refine ⟨pairwise_implicit hpair hhead, fun s hs => ?_⟩
    rcases List.mem_cons.mp hs with rfl | hs
    · exact ⟨le_rfl, hlen⟩
    · exact hin s hs

/-- The slides start at increasing lines from the first span's first line on. -/
theorem startsFrom_slides {n : ℕ} {s : Slide} {slides : List Slide}
    (hpair : ((s :: slides).map Slide.startLine).Pairwise (· < ·))
    (hin : ∀ u ∈ s :: slides, 1 ≤ u.startLine ∧ u.startLine ≤ n) :
    StartsFrom s.startLine n slides ∧ StartsFrom 1 n slides := by
  have hs := hin s (by simp)
  rw [List.map_cons, List.pairwise_cons] at hpair
  have hle : ∀ u ∈ slides.map Slide.startLine, u ≤ n := by
    intro u hu
    obtain ⟨v, hv, rfl⟩ := List.mem_map.mp hu
    exact (hin v (by simp [hv])).2
  refine ⟨⟨List.pairwise_cons.mpr hpair, ?_⟩, ⟨List.pairwise_cons.mpr ⟨?_, hpair.2⟩, ?_⟩⟩
  · intro u hu
    rcases List.mem_cons.mp hu with rfl | hu
    · exact hs.2
    · exact hle u hu
  · intro u hu
    have := hpair.1 u hu
    omega
  · intro u hu
    rcases List.mem_cons.mp hu with rfl | hu
    · omega
    · exact hle u hu

/-- A slide that starts at a line of a record is the implicit one, at the record's first line. -/
theorem slide_at_record {t : Text} {o : Outline} (h : Outline.parse t = .ok o) {r : Record}
    (hr : r ∈ o.records) {s : Slide} (hs : s ∈ o.slides) (h1 : r.startLine ≤ s.startLine)
    (h2 : s.startLine ≤ r.endLine) : s = ⟨1, [], .implicit⟩ ∧ r.startLine = 1 := by
  obtain ⟨last, items, hread, rfl⟩ := parse_eq_ok_iff.mp h
  rw [mem_records_iff] at hr
  have hord := hread.ordered
  have hread : s ∉ items.filterMap Item.slide? := by
    intro hmem
    rw [mem_slides_iff] at hmem
    rcases hord.trichotomy hr hmem with heq | hlt | hlt
    · cases heq
    · simp only [Item.lastLine, Item.firstLine] at hlt; omega
    · simp only [Item.lastLine, Item.firstLine] at hlt; omega
  rcases withImplicit_cases (lines t) (items.filterMap Item.slide?) with heq | ⟨heq, -⟩
  · simp only [heq] at hs
    exact absurd hs hread
  · simp only [heq] at hs
    rcases List.mem_cons.mp hs with rfl | hs
    · have hpos : 1 ≤ r.startLine := hord.above _ hr
      exact ⟨rfl, by simp only at h1; omega⟩
    · exact absurd hs hread

/-- A record lies within the span that holds its first line. -/
theorem record_mem_span {first n : ℕ} {slides : List Slide} (hst : StartsFrom first n slides)
    {r : Record} (hr : r.endLine ≤ n)
    (hcut : ∀ s ∈ slides, ¬(r.startLine < s.startLine ∧ s.startLine ≤ r.endLine)) {p : Span}
    (hp : p ∈ spansFrom n first slides) (hmem : r.startLine ∈ p.lines) : r.endLine ≤ p.last := by
  rw [Span.mem_lines] at hmem
  obtain ⟨-, -, heq | ⟨s, hs, heq⟩⟩ := span_of_mem_spansFrom hst hp
  · omega
  · have := hcut s hs
    omega

theorem slides_eq_nil_iff {t : Text} {o : Outline} (h : Outline.parse t = .ok o) :
    o.slides = [] ↔ ∀ l ∈ lines t, allBlank l = true := by
  obtain ⟨last, items, hread, rfl⟩ := parse_eq_ok_iff.mp h
  rw [withImplicit_eq_nil_iff]
  refine ⟨And.left, fun hb => ⟨hb, ?_⟩⟩
  rw [items_eq_nil_of_allBlank hread hb]
  rfl

/-- The spans of a document that has slides. -/
theorem exists_slideSpans_eq {t : Text} {o : Outline} (h : Outline.parse t = .ok o)
    (hne : o.slides ≠ []) :
    ∃ s slides, o.slides = s :: slides ∧ o.slideSpans = spansFrom o.lineCount 1 slides ∧
      1 ≤ s.startLine ∧ StartsFrom s.startLine o.lineCount slides ∧
      StartsFrom 1 o.lineCount slides := by
  obtain ⟨last, items, hread, rfl⟩ := parse_eq_ok_iff.mp h
  obtain ⟨hpair, hin⟩ := slides_increasing hread
  simp only [slideSpans]
  cases hsl : withImplicit (lines t) (items.filterMap Item.slide?) with
  | nil => exact absurd hsl hne
  | cons s slides =>
    rw [hsl] at hpair hin
    obtain ⟨hstart, hone⟩ := startsFrom_slides hpair hin
    exact ⟨s, slides, rfl, rfl, (hin s (by simp)).1, hstart, hone⟩

/-- Every record lies within exactly one span. -/
theorem existsUnique_span_of_record {t : Text} {o : Outline} (h : Outline.parse t = .ok o)
    {r : Record} (hr : r ∈ o.records) :
    ∃! p, p ∈ o.slideSpans ∧ p.first ≤ r.startLine ∧ r.endLine ≤ p.last := by
  have hne : o.slides ≠ [] := by
    intro hnil
    have hblank := (slides_eq_nil_iff h).mp hnil
    obtain ⟨last, items, hread, rfl⟩ := parse_eq_ok_iff.mp h
    -- all lines are blank, so there is no record
    rw [items_eq_nil_of_allBlank hread hblank] at hr
    cases hr
  obtain ⟨s, slides, hslides, hspans, -, -, hone⟩ := exists_slideSpans_eq h hne
  have hcut : ∀ u ∈ slides, ¬(r.startLine < u.startLine ∧ u.startLine ≤ r.endLine) := by
    rintro u hu ⟨hlt, hle⟩
    obtain ⟨rfl, hone⟩ := slide_at_record h hr (by simp [hslides, hu]) hlt.le hle
    rw [hone] at hlt
    exact absurd hlt (lt_irrefl 1)
  obtain ⟨last, items, hread, rfl⟩ := parse_eq_ok_iff.mp h
  rw [mem_records_iff] at hr
  have hpos : 1 ≤ r.startLine := hread.ordered.above _ hr
  have hproper : r.startLine ≤ r.endLine := hread.ordered.proper _ hr
  have hbelow : r.endLine ≤ (lines t).length := hread.ordered.below _ hr
  obtain ⟨p, ⟨hp, hmem⟩, huniq⟩ := existsUnique_mem_spansFrom hone hpos (hproper.trans hbelow)
  have hend := record_mem_span hone hbelow hcut hp hmem
  rw [hspans]
  refine ⟨p, ⟨hp, (Span.mem_lines.mp hmem).1, hend⟩, ?_⟩
  rintro q ⟨hq, h1, h2⟩
  exact huniq q ⟨hq, Span.mem_lines.mpr ⟨h1, hproper.trans h2⟩⟩

/-- **Slide spans.**  A document has no slide exactly when all its lines are blank.  Otherwise its
slides start at increasing lines, each slide starts in its own span, the spans are not empty, they
cover the lines of the document once and in order, and every line lies in exactly one of them.  No
slide starts inside a record, unless it is the implicit one and the record opens the document, so
every record lies within exactly one span. -/
theorem slideSpans_partition {t : Text} {o : Outline} (h : Outline.parse t = .ok o) :
    o.lineCount = (lines t).length ∧
    (o.slides = [] ↔ ∀ l ∈ lines t, allBlank l = true) ∧
    (o.slides ≠ [] →
      (o.slides.map Slide.startLine).Pairwise (· < ·) ∧
      List.Forall₂ (fun s p => s.startLine ∈ Span.lines p) o.slides o.slideSpans ∧
      (∀ p ∈ o.slideSpans, p.first ≤ p.last) ∧
      o.slideSpans.flatMap Span.lines = List.range' 1 o.lineCount ∧
      (∀ n, 1 ≤ n → n ≤ o.lineCount → ∃! p, p ∈ o.slideSpans ∧ n ∈ p.lines) ∧
      o.slideSpans.head?.map Span.first = some 1 ∧
      o.slideSpans.getLast?.map Span.last = some o.lineCount) ∧
    ∀ r ∈ o.records,
      (∀ s ∈ o.slides, r.startLine ≤ s.startLine → s.startLine ≤ r.endLine →
        s = ⟨1, [], .implicit⟩ ∧ r.startLine = 1) ∧
      ∃! p, p ∈ o.slideSpans ∧ p.first ≤ r.startLine ∧ r.endLine ≤ p.last := by
  refine ⟨?_, slides_eq_nil_iff h, ?_, fun r hr =>
    ⟨fun s hs => slide_at_record h hr hs, existsUnique_span_of_record h hr⟩⟩
  · obtain ⟨last, items, -, rfl⟩ := parse_eq_ok_iff.mp h
    rfl
  · intro hne
    obtain ⟨s, slides, hslides, hspans, hs, hstart, hone⟩ := exists_slideSpans_eq h hne
    rw [hslides, hspans]
    refine ⟨hstart.1, forall₂_spansFrom hs hstart,
      fun p hp => (span_of_mem_spansFrom hone hp).2.1, ?_,
      fun n h1 h2 => existsUnique_mem_spansFrom hone h1 h2, head?_spansFrom, getLast?_spansFrom⟩
    simpa using spansFrom_flatMap hone

/-- A block before the first heading, a heading known by its underline, a repeated title. -/
theorem slideSpans_partition_underlined :
    let t := "```sh\nx\n```\nTitle\n===\n---\n".toList
    let title := "Title".toList
    let b : Block := ⟨1, 3, "```".toList, ⟨"sh".toList, none, none, [], [], false, false⟩, [['x']]⟩
    let o : Outline :=
      ⟨6, [.block b], [⟨1, [], .implicit⟩, ⟨4, title, .heading⟩, ⟨6, title, .break⟩]⟩
    Outline.parse t = .ok o ∧ o.slideSpans = [⟨1, 3⟩, ⟨4, 5⟩, ⟨6, 6⟩] ∧
      o.slideSpans.flatMap Span.lines = List.range' 1 6 ∧
      ∃! p, p ∈ o.slideSpans ∧ p.first ≤ 1 ∧ 3 ≤ p.last := by
  intro t title b o
  have h : Outline.parse t = .ok o := by decide +kernel
  obtain ⟨-, -, hspans, hrecords⟩ := slideSpans_partition h
  obtain ⟨-, -, -, hcover, -⟩ := hspans (by simp [o])
  exact ⟨h, rfl, hcover, (hrecords (.block b) (by simp [o])).2⟩

end Outline

end Literate

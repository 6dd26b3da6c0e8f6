import Mathlib
import Literate.Proofs.Deck.Source

/-!
# The deck shows every kept line once

The spans cut the lines of a document into one part for each slide, so a kept line is shown by the
slide whose span holds its number and by no other, unless it is the marker line of a break.  A
document of blank lines has no slide, and nothing of it is shown.

* `Outline.eq_of_startLine_mem_span`: no other slide starts in the span of a slide.
* `Outline.flatMap_filter_spansFrom`: spans cut lines with increasing numbers into parts.
* `Deck.flatMap_shown`: the parts that the slides show.
* `Deck.sources_partition`: the sources of a document.
* `Deck.sources_lone_break`: a slide that shows nothing, and a document without slides.
-/

namespace Literate

open Text

namespace Outline

/-- In the span of a slide no other slide starts. -/
theorem eq_of_startLine_mem_span {first last : ℕ} {s : Slide} {slides : List Slide}
    (hs : first ≤ s.startLine) (h : StartsFrom s.startLine last slides) :
    ∀ x ∈ (s :: slides).zip (spansFrom last first slides), ∀ u ∈ s :: slides,
      u.startLine ∈ x.2.lines → u = x.1 := by
  induction slides generalizing first s with
  | nil =>
    intro x hx u hu _
    rw [spansFrom, List.zip_cons_cons, List.zip_nil_left, List.mem_singleton] at hx
    rw [List.mem_singleton.mp hu, hx]
  | cons v slides ih =>
    intro x hx u hu hmem
    obtain ⟨hlt, htail⟩ := h.tail
    rw [spansFrom, List.zip_cons_cons] at hx
    rcases List.mem_cons.mp hx with rfl | hx' <;> rcases List.mem_cons.mp hu with rfl | hu'
    · rfl
    · -- the first span ends before the second slide starts
      have hle : v.startLine ≤ u.startLine := by
        rcases List.mem_cons.mp hu' with rfl | hu'
        · exact le_rfl
        · exact (List.rel_of_pairwise_cons htail.1 (List.mem_map_of_mem hu')).le
      rw [Span.mem_lines] at hmem
      simp only at hmem
      omega
    · have := (span_of_mem_spansFrom htail (List.of_mem_zip hx').2).1
      rw [Span.mem_lines] at hmem
      omega
    · exact ih le_rfl htail x hx' u hu' hmem

/-- Lines with increasing numbers are the parts that the spans cut, one behind the other. -/
theorem flatMap_filter_spansFrom {first last : ℕ} {slides : List Slide}
    (h : StartsFrom first last slides) {es : List Entry}
    (hnumbers : (es.map Entry.number).Pairwise (· < ·))
    (hin : ∀ e ∈ es, first ≤ e.number ∧ e.number ≤ last) :
    (spansFrom last first slides).flatMap
      (fun p => es.filter fun e => decide (e.number ∈ p.lines)) = es := by
  induction slides generalizing first es with
  | nil =>
    rw [spansFrom, List.flatMap_singleton, List.filter_eq_self]
    exact fun e he => decide_eq_true (Span.mem_lines.mpr (hin e he))
  | cons s slides ih =>
    obtain ⟨hlt, htail⟩ := h.tail
    have hfront : es.filter (fun e => decide (e.number ∈ Span.lines ⟨first, s.startLine - 1⟩)) =
        es.filter fun e => decide (e.number < s.startLine) := by
      refine List.filter_congr fun e he => decide_eq_decide.mpr ?_
      have := hin e he
      rw [Span.mem_lines]
      dsimp only
      omega
    have hback : ∀ p ∈ spansFrom last s.startLine slides,
        es.filter (fun e => decide (e.number ∈ p.lines)) =
          (es.filter fun e => decide (s.startLine ≤ e.number)).filter
            fun e => decide (e.number ∈ p.lines) := by
      intro p hp
      have hp := (span_of_mem_spansFrom htail hp).1
      rw [List.filter_filter]
      refine List.filter_congr fun e _ => ?_
      rw [← Bool.decide_and, decide_eq_decide, Span.mem_lines]
      omega
    have hrest := ih htail
      (hnumbers.sublist (List.filter_sublist (p := fun e => decide (s.startLine ≤ e.number)).map
        Entry.number))
      fun e he => by
        obtain ⟨he, hle⟩ := List.mem_filter.mp he
        exact ⟨of_decide_eq_true hle, (hin e he).2⟩
    rw [spansFrom, List.flatMap_cons, hfront, List.flatMap_congr hback, hrest,
      Entry.filter_number_append hnumbers]

end Outline

namespace Deck

/-- Whether a line is the marker line of a break. -/
def isBreakLine (o : Outline) (e : Entry) : Bool :=
  o.slides.any fun s => s.kind = .break && e.number == s.startLine

variable {t : Text} {o : Outline} {kept : List Entry}

/-- **Every kept line is shown once.**  What the slides show is, in order, all that is kept but the
marker lines of breaks. -/
theorem flatMap_shown (ho : Outline.parse t = .ok o) (hne : o.slides ≠ [])
    (hnumbers : (kept.map Entry.number).Pairwise (· < ·))
    (hin : ∀ e ∈ kept, 1 ≤ e.number ∧ e.number ≤ o.lineCount) :
    (o.slides.zip o.slideSpans).flatMap (fun x => shown kept x.1 x.2) =
      kept.filter fun e => !isBreakLine o e := by
  obtain ⟨s, slides, hslides, hspans, hs, hstart, hone⟩ := Outline.exists_slideSpans_eq ho hne
  have hown := Outline.eq_of_startLine_mem_span hs hstart
  rw [← hslides, ← hspans] at hown
  have hpart : ∀ x ∈ o.slides.zip o.slideSpans, shown kept x.1 x.2 =
      (kept.filter fun e => !isBreakLine o e).filter fun e => decide (e.number ∈ x.2.lines) := by
    intro x hx
    rw [shown, List.filter_filter]
    refine List.filter_congr fun e _ => ?_
    by_cases he : e.number ∈ x.2.lines
    · have hbreak : isBreakLine o e = (x.1.kind = .break && e.number == x.1.startLine : Bool) := by
        rw [Bool.eq_iff_iff, isBreakLine, List.any_eq_true]
        constructor
        · rintro ⟨u, hu, hbreak⟩
          have hstart : e.number = u.startLine := beq_iff_eq.mp (Bool.and_eq_true_iff.mp hbreak).2
          rwa [hown x hx u hu (hstart ▸ he)] at hbreak
        · exact fun hbreak => ⟨x.1, (List.of_mem_zip hx).1, hbreak⟩
      rw [hbreak, decide_eq_true he]
      rw [Span.mem_lines] at he
      simp [he.1, he.2]
    · rw [decide_eq_false he]
      rw [Span.mem_lines, not_and_or] at he
      rcases he with he | he <;> simp [he]
  have hspanned : o.slideSpans.flatMap (fun p =>
      (kept.filter fun e => !isBreakLine o e).filter fun e => decide (e.number ∈ p.lines)) =
        kept.filter fun e => !isBreakLine o e := by
    rw [hspans]
    exact Outline.flatMap_filter_spansFrom hone (hnumbers.sublist (List.filter_sublist.map _))
      fun e he => hin e (List.mem_of_mem_filter he)
  rw [List.flatMap_congr hpart]
  rwa [← List.map_snd_zip (Outline.length_slideSpans o).le, List.flatMap_map] at hspanned

/-- **The deck.**  A document that can be read and has no carriage return has one source for each
slide, and no slide only when all its lines are blank.  Otherwise what the slides show is, in order,
every line kept for the slides but the marker lines of breaks, each in the part of the slide whose
span holds its number.  A source holds the heading of a break with a title and then what its slide
shows, less empty lines at both ends, or one empty line when nothing is left; on its own it can be
read, and its records are the records of the span that stay, with the lines they have among those
kept. -/
theorem sources_partition {t : Text} {o : Outline} (hreturn : '\r' ∉ t)
    (ho : Outline.parse t = .ok o) :
    ∃ kept sources, keptLines t .slides = .ok kept ∧ Deck.sources t = .ok sources ∧
      sources.length = o.slides.length ∧ (kept.map Entry.number).Pairwise (· < ·) ∧
      (o.slides = [] ↔ ∀ l ∈ lines t, allBlank l = true) ∧
      (o.slides ≠ [] → (o.slides.zip o.slideSpans).flatMap (fun x => shown kept x.1 x.2) =
        kept.filter fun e => !isBreakLine o e) ∧
      List.Forall₂ (fun x source => ∃ body, IsSource o (lines t) kept x.1 x.2 body source)
        (o.slides.zip o.slideSpans) sources := by
  obtain ⟨hnumbers, hfronts⟩ := Exclusion.keptLines_fronts o .slides (lines t)
  have hin : ∀ e ∈ Exclusion.keptLines o .slides (lines t),
      1 ≤ e.number ∧ e.number ≤ o.lineCount := by
    intro e he
    obtain ⟨hpos, l, hl, -⟩ := hfronts e he
    have hlt := (List.getElem?_eq_some_iff.mp hl).1
    have hcount : o.lineCount = (lines t).length := by
      obtain ⟨last, items, -, rfl⟩ := Outline.parse_eq_ok_iff.mp ho
      rfl
    omega
  refine ⟨_, _, by rw [keptLines, ho], by rw [Deck.sources, ho], ?_, hnumbers,
    Outline.slides_eq_nil_iff ho, fun hne => flatMap_shown ho hne hnumbers hin, ?_⟩
  · rw [sourcesOf, List.length_map, List.length_zip, Outline.length_slideSpans,
      Nat.min_self]
  · rw [sourcesOf, List.forall₂_map_right_iff, List.forall₂_same]
    intro x hx
    obtain ⟨hs, hspan⟩ := List.of_mem_zip hx
    exact exists_isSource hreturn ho hs hspan

/-- A block stays and loses a marker, a break repeats a title, a line and a block go, and the last
break has nothing behind it. -/
theorem sources_partition_breaks :
    let t := ("# T\n\n```sh a %\nx\n```\n\n---\n\nold &\n```sh b &\nz\n```\nend\n\n* * *\n").toList
    let a : Block :=
      ⟨3, 5, "```".toList, ⟨"sh".toList, some ['a'], none, [], [], true, false⟩, [['x']]⟩
    let b : Block :=
      ⟨10, 12, "```".toList, ⟨"sh".toList, some ['b'], none, [], [], false, true⟩, [['z']]⟩
    let slides : List Slide := [⟨1, ['T'], .heading⟩, ⟨7, ['T'], .break⟩, ⟨15, [], .break⟩]
    let o : Outline := ⟨15, [.block a, .block b], slides⟩
    let kept : List Entry := [⟨1, "# T".toList⟩, ⟨2, []⟩, ⟨3, "```sh a".toList⟩, ⟨4, ['x']⟩,
      ⟨5, "```".toList⟩, ⟨6, []⟩, ⟨7, "---".toList⟩, ⟨8, []⟩, ⟨13, "end".toList⟩, ⟨14, []⟩,
      ⟨15, "* * *".toList⟩]
    let sources : List Text :=
      ["# T\n\n```sh a\nx\n```\n".toList, "# T\n\nend\n".toList, "\n".toList]
    '\r' ∉ t ∧ Outline.parse t = .ok o ∧ keptLines t .slides = .ok kept ∧
      Deck.sources t = .ok sources ∧
      List.Forall₂ (fun x source => ∃ body, IsSource o (lines t) kept x.1 x.2 body source)
        (slides.zip [⟨1, 6⟩, ⟨7, 14⟩, ⟨15, 15⟩]) sources := by
  intro t a b slides o kept sources
  have hreturn : '\r' ∉ t := by decide +kernel
  have ho : Outline.parse t = .ok o := by decide +kernel
  have hkept : keptLines t .slides = .ok kept := by decide +kernel
  have hsources : Deck.sources t = .ok sources := by decide +kernel
  obtain ⟨kept', sources', h, h', -, -, -, -, hall⟩ := sources_partition hreturn ho
  obtain rfl : kept = kept' := Except.ok.inj (hkept.symm.trans h)
  obtain rfl : sources = sources' := Except.ok.inj (hsources.symm.trans h')
  exact ⟨hreturn, ho, hkept, hsources, hall⟩

/-- A break with nothing behind it: its source holds an empty line that is neither a heading nor a
kept line.  A line of blanks is kept, but a document of such lines has no slide that shows it. -/
theorem sources_lone_break :
    (¬ ∀ (t : Text) (o : Outline) (kept : List Entry) (sources : List Text), '\r' ∉ t →
      Outline.parse t = .ok o → keptLines t .slides = .ok kept → Deck.sources t = .ok sources →
      ∀ source ∈ sources, ∀ l ∈ lines source,
        (∃ e ∈ kept, isBreakLine o e = false ∧ e.text = l) ∨
          ∃ s ∈ o.slides, l = titleLine s.title) ∧
    ¬ ∀ (t : Text) (o : Outline) (kept : List Entry) (sources : List Text), '\r' ∉ t →
      Outline.parse t = .ok o → keptLines t .slides = .ok kept → Deck.sources t = .ok sources →
      ∀ e ∈ kept, isBreakLine o e = false → e.text ≠ [] →
        ∃ source ∈ sources, e.text ∈ lines source := by
  constructor
  · intro hclaim
    have hline := hclaim "---\n".toList ⟨1, [], [⟨1, [], .break⟩]⟩ [⟨1, "---".toList⟩] [['\n']]
      (by decide +kernel) (by decide +kernel) (by decide +kernel) (by decide +kernel) ['\n']
      (by decide) [] (by decide +kernel)
    obtain ⟨e, he, -, htext⟩ | ⟨s, -, htitle⟩ := hline
    · rw [List.mem_singleton.mp he] at htext
      cases htext
    · cases htitle
  · intro hclaim
    obtain ⟨source, hsource, -⟩ := hclaim " \n".toList ⟨1, [], []⟩ [⟨1, [' ']⟩] []
      (by decide +kernel) (by decide +kernel) (by decide +kernel) (by decide +kernel) ⟨1, [' ']⟩
      (by decide) (by decide) (by decide)
    cases hsource

end Deck

end Literate

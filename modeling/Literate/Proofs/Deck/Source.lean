import Mathlib
import Literate.Deck
import Literate.Proofs.Exclusion.Idempotence
import Literate.Proofs.Exclusion.Selection
import Literate.Proofs.Outline.SlideSpans
import Literate.Proofs.Outline.Titles

/-!
# The source of one slide

The source of a slide is a document: the kept lines of its span, behind the heading of a break that
has a title.  The span cuts no record, and the empty lines taken off at the ends are in none, so the
records of the source are those of the span that stay.

* `Deck.shown`, `Deck.heading`: the lines of a slide and the heading in front of them.
* `Deck.exists_body`: only empty lines are taken off, and never the heading.
* `Deck.mem_body_iff`: a record is in the source as a whole or not at all.
* `Deck.IsSource`, `Deck.exists_isSource`: what the source of a slide is.
-/

namespace Literate

open Text

/-- Whether a record lies in a span. -/
def Span.encloses (p : Span) (r : Record) : Bool := p.first ≤ r.startLine && r.endLine ≤ p.last

theorem Span.encloses_iff {p : Span} {r : Record} :
    p.encloses r = true ↔ p.first ≤ r.startLine ∧ r.endLine ≤ p.last := by
  simp [encloses]

namespace Deck

/-- The kept lines that a slide shows: those of its span, less the marker line of a break. -/
def shown (kept : List Entry) (s : Slide) (span : Span) : List Entry :=
  kept.filter fun e =>
    span.first ≤ e.number && e.number ≤ span.last && !(s.kind = .break && e.number == s.startLine)

/-- The heading of a break that has a title.  It is no line of the document and has number zero. -/
def heading (s : Slide) : List Entry :=
  if s.kind = .break && !s.title.isEmpty then [⟨0, titleLine s.title⟩] else []

variable {kept : List Entry} {s : Slide} {span : Span}

theorem mem_shown {e : Entry} :
    e ∈ shown kept s span ↔ e ∈ kept ∧ e.number ∈ span.lines ∧
      ¬(s.kind = .break ∧ e.number = s.startLine) := by
  simp [shown, and_assoc, imp_iff_not_or]

theorem heading_cases (s : Slide) : heading s = [] ∨ heading s = [⟨0, titleLine s.title⟩] := by
  rw [heading]
  split_ifs
  · exact .inr rfl
  · exact .inl rfl

theorem slideSource_eq (kept : List Entry) (s : Slide) (span : Span) :
    slideSource kept s span =
      join ['\n'] (trimEmpty ((heading s ++ shown kept s span).map Entry.text)) ++ ['\n'] := by
  rw [slideSource, heading]
  split_ifs <;> rfl

/-! ## Empty lines at the ends -/

/-- Trimming takes empty lines off the ends and nothing else. -/
theorem exists_trimmed (es : List Entry) :
    ∃ top body bottom, es = top ++ body ++ bottom ∧ (∀ e ∈ top ++ bottom, e.text = []) ∧
      trimEmpty (es.map Entry.text) = body.map Entry.text := by
  let p : Entry → Bool := List.isEmpty ∘ Entry.text
  have hempty : ∀ e, p e = true → e.text = [] := fun e he => List.isEmpty_iff.mp he
  refine ⟨es.takeWhile p, (es.dropWhile p).rdropWhile p, (es.dropWhile p).rtakeWhile p, ?_, ?_, ?_⟩
  · rw [List.append_assoc, List.rdropWhile_append_rtakeWhile, List.takeWhile_append_dropWhile]
  · refine List.forall_mem_append.mpr ⟨fun e he => ?_, fun e he => ?_⟩
    · exact hempty e (List.mem_takeWhile_imp he)
    · exact hempty e (List.mem_rtakeWhile_imp he)
  · rw [trimEmpty, dropEndWhile_eq, List.dropWhile_map, List.rdropWhile, ← List.map_reverse,
      List.dropWhile_map, ← List.map_reverse]
    rfl

/-- The heading stays at the top. -/
theorem exists_body (kept : List Entry) (s : Slide) (span : Span) :
    ∃ top body bottom, shown kept s span = top ++ body ++ bottom ∧
      (∀ e ∈ top ++ bottom, e.text = []) ∧
      trimEmpty ((heading s ++ shown kept s span).map Entry.text) =
        (heading s ++ body).map Entry.text := by
  obtain ⟨top, body, bottom, hsplit, hempty, htrim⟩ :=
    exists_trimmed (heading s ++ shown kept s span)
  rw [htrim]
  rcases heading_cases s with hh | hh
  · rw [hh, List.nil_append] at hsplit
    exact ⟨top, body, bottom, hsplit, hempty, by rw [hh, List.nil_append]⟩
  · rw [hh] at hsplit ⊢
    have hend : ⟨0, titleLine s.title⟩ ∉ top ++ bottom := by
      intro hmem
      cases hempty _ hmem
    -- the heading is not empty, so nothing is taken off in front of it
    cases top with
    | cons e top =>
      obtain ⟨rfl, -⟩ := List.cons.inj hsplit
      exact absurd (by simp) hend
    | nil =>
      cases body with
      | nil =>
        rw [List.nil_append, List.nil_append, List.singleton_append] at hsplit
        rw [← hsplit] at hend
        exact absurd (by simp) hend
      | cons e body =>
        obtain ⟨rfl, hrest⟩ := List.cons.inj hsplit
        exact ⟨[], body, bottom, hrest, hempty, rfl⟩

/-- A line between two lines that are not empty is not taken off. -/
theorem mem_body {top body bottom : List Entry}
    (hnumbers : ((top ++ body ++ bottom).map Entry.number).Pairwise (· < ·))
    (hempty : ∀ e ∈ top ++ bottom, e.text = []) {a e b : Entry} (ha : a ∈ top ++ body ++ bottom)
    (he : e ∈ top ++ body ++ bottom) (hb : b ∈ top ++ body ++ bottom) (hat : a.text ≠ [])
    (hbt : b.text ≠ []) (hae : a.number ≤ e.number) (heb : e.number ≤ b.number) : e ∈ body := by
  have hin : ∀ f ∈ top ++ body ++ bottom, f.text ≠ [] → f ∈ body := by
    intro f hf hft
    have hend : f ∉ top ++ bottom := fun hmem => hft (hempty f hmem)
    simp only [List.mem_append] at hf hend
    tauto
  rw [List.pairwise_map, List.append_assoc, List.pairwise_append, List.pairwise_append] at hnumbers
  obtain ⟨-, ⟨-, -, hbottom⟩, htop⟩ := hnumbers
  rw [List.append_assoc] at he
  rcases List.mem_append.mp he with he | he
  · have := htop e he a (List.mem_append_left _ (hin a ha hat))
    omega
  · rcases List.mem_append.mp he with he | he
    · exact he
    · have := hbottom b (hin b hb hbt) e he
      omega

/-! ## Records in a source -/

section

variable {t : Text} {o : Outline}

/-- A record with a line in a span lies in it. -/
theorem encloses_of_holds (ho : Outline.parse t = .ok o) (hspan : span ∈ o.slideSpans) {r : Record}
    (hr : r ∈ o.records) {n : ℕ} (hrn : r.holds n = true) (hn : n ∈ span.lines) :
    span.encloses r = true := by
  obtain ⟨p, ⟨hp, hfirst, hlast⟩, -⟩ := Outline.existsUnique_span_of_record ho hr
  have hne : o.slides ≠ [] := by
    intro hnil
    rw [Outline.slideSpans, hnil] at hp
    cases hp
  obtain ⟨s, slides, -, hspans, -, -, hone⟩ := Outline.exists_slideSpans_eq ho hne
  rw [hspans] at hp hspan
  rw [Record.holds_iff] at hrn
  have hnp : n ∈ p.lines := Span.mem_lines.mpr ⟨hfirst.trans hrn.1, hrn.2.trans hlast⟩
  obtain rfl := Outline.eq_of_mem_spansFrom hone hp hspan hnp hn
  exact Span.encloses_iff.mpr ⟨hfirst, hlast⟩

/-- A kept line of a record in the span of a slide is shown; the slide does not start there. -/
theorem mem_shown_of_encloses (ho : Outline.parse t = .ok o) (hs : s ∈ o.slides) {r : Record}
    (hr : r ∈ o.records) (hspan : span.encloses r = true) {e : Entry} (he : e ∈ kept)
    (hn : r.holds e.number = true) : e ∈ shown kept s span := by
  rw [Span.encloses_iff] at hspan
  rw [Record.holds_iff] at hn
  refine mem_shown.mpr ⟨he, Span.mem_lines.mpr ⟨by omega, by omega⟩, ?_⟩
  rintro ⟨hkind, hstart⟩
  obtain ⟨rfl, -⟩ := Outline.slide_at_record ho hr hs (hstart ▸ hn.1) (hstart ▸ hn.2)
  cases hkind

/-- **Records are whole.**  A kept line of a record is in the source of a slide exactly when the
record lies in the span of the slide. -/
theorem mem_body_iff (ho : Outline.parse t = .ok o) (hs : s ∈ o.slides)
    (hspan : span ∈ o.slideSpans) (hnumbers : (kept.map Entry.number).Pairwise (· < ·))
    {top body bottom : List Entry}
    (hshown : shown kept s span = top ++ body ++ bottom) (hempty : ∀ e ∈ top ++ bottom, e.text = [])
    {p q : ℕ × FencedLines} (hr : p.2.record p.1 ∈ o.records) (himage : Exclusion.IsImage kept p q)
    {e : Entry} (he : e ∈ kept) (hn : (p.2.record p.1).holds e.number = true) :
    e ∈ body ↔ span.encloses (p.2.record p.1) = true := by
  constructor
  · intro hbody
    have hmem : e ∈ shown kept s span := by
      rw [hshown]
      simp [hbody]
    exact encloses_of_holds ho hspan hr hn (mem_shown.mp hmem).2.1
  · intro hin
    have hall : ∀ f ∈ Entry.numbered (p.1 + 1) q.2.lines, f ∈ top ++ body ++ bottom := by
      intro f hf
      rw [← hshown]
      exact mem_shown_of_encloses ho hs hr hin (himage.mem hf) (himage.holds hf)
    have hopener : ⟨p.1 + 1, q.2.opener⟩ ∈ Entry.numbered (p.1 + 1) q.2.lines := by
      simp [Entry.mem_numbered_iff, FencedLines.lines]
    have hcloser : ⟨p.1 + p.2.height, q.2.closer⟩ ∈ Entry.numbered (p.1 + 1) q.2.lines := by
      rw [Entry.mem_numbered_iff, ← himage.height_eq, FencedLines.height]
      refine ⟨by simp only; omega, ?_⟩
      simp only [FencedLines.lines]
      rw [show p.1 + (q.2.inner.length + 2) - (p.1 + 1) = q.2.inner.length + 1 by omega,
        List.getElem?_cons_succ, List.getElem?_concat_length]
    have hsub : ((top ++ body ++ bottom).map Entry.number).Pairwise (· < ·) := by
      rw [← hshown]
      exact hnumbers.sublist (List.filter_sublist.map Entry.number)
    have hmem : e ∈ top ++ body ++ bottom := by
      rw [← hshown]
      exact mem_shown_of_encloses ho hs hr hin he hn
    rw [Record.holds_iff, FencedLines.startLine_record, FencedLines.endLine_record] at hn
    exact mem_body hsub hempty (hall _ hopener) hmem (hall _ hcloser)
      (List.ne_nil_of_mem (Fence.kind_char_mem_of_ofLine? q.2.opens))
      (List.ne_nil_of_mem (Fence.kind_char_mem_of_ofLine? q.2.ends)) hn.1 hn.2

end

/-! ## What is written -/

/-- The heading of a slide is a heading line. -/
theorem isHeading_titleLine (title : Text) : LineKind.isHeading (titleLine title) = true := by
  simp [LineKind.isHeading, LineKind.unindented?, LineKind.endsOrGap, titleLine, isGap]

theorem ofLine?_titleLine (title : Text) : Fence.ofLine? (titleLine title) = none := by
  simp [Fence.ofLine?, Fence.ofRun?, FenceKind.ofChar?, titleLine]

/-- An empty line in place of no lines at all. -/
theorem layout_lines {ls : List Line} {hs : List (ℕ × FencedLines)}
    (h : Layout Exclusion.IsClean 0 ls hs) :
    Layout Exclusion.IsClean 0 (if ls = [] then [[]] else ls) hs := by
  split_ifs with hls
  · subst hls
    cases h
    exact .line rfl (.inr (.inl rfl)) .nil
  · exact h

/-- What the source of a slide is: `body` are the lines left of what it shows. -/
structure IsSource (o : Outline) (ls : List Line) (kept : List Entry) (s : Slide) (span : Span)
    (body : List Entry) (source : Text) : Prop where
  /-- Only empty lines at the two ends are missing. -/
  shown_eq : ∃ top bottom, shown kept s span = top ++ body ++ bottom ∧
    ∀ e ∈ top ++ bottom, e.text = []
  /-- No line comes in but the heading, and an empty line where there is nothing else. -/
  lines_eq : lines source =
    if heading s ++ body = [] then [[]] else (heading s ++ body).map Entry.text
  /-- It can be read on its own, and its records are those of the span that stay. -/
  records : ∃ o', Outline.parse source = .ok o' ∧
    List.Forall₂ (Exclusion.KeptAs ls (heading s ++ body))
      (o.records.filter fun r => span.encloses r && !Exclusion.removes o .slides ls r) o'.records

section

variable {t : Text} {o : Outline}

/-- **Sources are made of lines.**  A character of a line of a source stands in a line of the
document, or it belongs to the marks of a heading. -/
theorem mem_of_mem_source (ho : Outline.parse t = .ok o) (hs : s ∈ o.slides)
    {body : List Entry} (hbody : body ⊆ Exclusion.keptLines o .slides (lines t)) {l : Line}
    (hl : l ∈ (heading s ++ body).map Entry.text) {c : Char} (hc : c ∈ l) :
    c = '#' ∨ c = ' ' ∨ ∃ m ∈ lines t, c ∈ m := by
  rw [List.map_append] at hl
  rcases List.mem_append.mp hl with hl | hl
  · rcases heading_cases s with hh | hh
    · rw [hh] at hl
      cases hl
    · rw [hh, List.map_singleton, List.mem_singleton] at hl
      rw [hl, titleLine, List.mem_cons, List.mem_cons] at hc
      rcases hc with hc | hc | hc
      · exact .inl hc
      · exact .inr (.inl hc)
      · exact .inr (Outline.mem_of_mem_title ho hs hc)
  · exact .inr (.inr (Exclusion.mem_of_mem_keptLines (List.map_subset _ hbody hl) hc))

theorem newline_notMem_of_mem_source (ho : Outline.parse t = .ok o) (hs : s ∈ o.slides)
    {body : List Entry} (hbody : body ⊆ Exclusion.keptLines o .slides (lines t)) :
    ∀ l ∈ (heading s ++ body).map Entry.text, '\n' ∉ l := by
  intro l hl hc
  obtain hc | hc | ⟨m, hm, hcm⟩ := mem_of_mem_source ho hs hbody hl hc
  · cases hc
  · cases hc
  · exact newline_notMem_of_mem_lines hm hcm

theorem return_notMem_of_mem_source (hreturn : '\r' ∉ t) (ho : Outline.parse t = .ok o)
    (hs : s ∈ o.slides) {body : List Entry}
    (hbody : body ⊆ Exclusion.keptLines o .slides (lines t)) :
    ∀ l ∈ (heading s ++ body).map Entry.text, '\r' ∉ l := by
  intro l hl hc
  obtain hc | hc | ⟨m, hm, hcm⟩ := mem_of_mem_source ho hs hbody hl hc
  · cases hc
  · cases hc
  · exact hreturn (mem_of_mem_lines hm hcm)

/-- The heading of a slide in front of lines with a layout. -/
theorem layout_heading (s : Slide) {body : List Entry} {hs : List (ℕ × FencedLines)}
    (h : Layout Exclusion.IsClean 0 (body.map Entry.text) hs) :
    Layout Exclusion.IsClean 0 ((heading s ++ body).map Entry.text)
      (hs.map fun q => (q.1 + (heading s).length, q.2)) := by
  have hheading : ∀ l ∈ (heading s).map Entry.text, l = titleLine s.title := by
    rcases heading_cases s with hh | hh <;> simp [hh]
  have hplain : Layout Exclusion.IsClean 0 ((heading s).map Entry.text) [] := by
    refine .plain 0 (fun l hl => ?_) (fun l hl => ?_)
    · rw [hheading l hl, ofLine?_titleLine]
    · rw [hheading l hl]
      exact .inl (by simp [Prose.isStructural, isHeading_titleLine])
  rw [List.map_append]
  refine hplain.append ?_
  rw [List.length_map]
  exact h.shift (heading s).length

/-- The layout of what is left of the lines of a slide: the ranges are those of the span that
stay. -/
theorem exists_layout_body (ho : Outline.parse t = .ok o) (hs : s ∈ o.slides)
    (hspan : span ∈ o.slideSpans) {gs : List (ℕ × FencedLines)}
    (hlayout : Layout (fun _ => True) 0 (lines t) gs) (hrecords : o.records = Layout.records gs)
    {top body bottom : List Entry}
    (hshown : shown (Exclusion.keptLines o .slides (lines t)) s span = top ++ body ++ bottom)
    (hempty : ∀ e ∈ top ++ bottom, e.text = []) :
    body.Sublist (Exclusion.keptLines o .slides (lines t)) ∧
      ∃ hs', Layout Exclusion.IsClean 0 (body.map Entry.text) hs' ∧
        List.Forall₂ (Exclusion.IsImage body) (gs.filter fun p =>
          span.encloses (p.2.record p.1) &&
            !Exclusion.removes o .slides (lines t) (p.2.record p.1)) hs' := by
  obtain ⟨gs', hlayout', himages⟩ :=
    Exclusion.exists_layout_keptLines .slides hlayout hrecords
  obtain ⟨hnumbers, -⟩ := Exclusion.keptLines_fronts o .slides (lines t)
  generalize Exclusion.keptLines o .slides (lines t) = kept at *
  have hbody : body.Sublist kept := by
    have hpart : body.Sublist (top ++ body ++ bottom) :=
      (List.sublist_append_right top body).trans (List.sublist_append_left _ bottom)
    rw [← hshown] at hpart
    exact hpart.trans List.filter_sublist
  refine ⟨hbody, ?_⟩
  have hselect := Entry.filter_mem_of_sublist (Entry.nodup_of_increasing hnumbers) hbody
  have hboth : List.Forall₂ (fun p q =>
      (∃ q, Exclusion.IsImage kept p q) ∧ Exclusion.IsImage kept p q) _ gs' :=
    himages.imp fun p q h => ⟨⟨q, h⟩, h⟩
  have himage := ((List.forall₂_and_left _ _).mp hboth).1
  have hwhole : ∀ p ∈ gs.filter fun p => !Exclusion.removes o .slides (lines t) (p.2.record p.1),
      ∀ e ∈ [] ++ kept, (p.2.record p.1).holds e.number = true →
        decide (e ∈ body) = span.encloses (p.2.record p.1) := by
    intro p hp e he hn
    obtain ⟨q, hq⟩ := himage p hp
    have hr : p.2.record p.1 ∈ o.records := by
      rw [hrecords]
      exact Layout.mem_records_iff.mpr ⟨p, List.mem_of_mem_filter hp, rfl⟩
    rw [Bool.eq_iff_iff, decide_eq_true_iff]
    exact mem_body_iff ho hs hspan hnumbers hshown hempty hr hq he hn
  obtain ⟨hs', hlayout'', himages'⟩ :=
    Exclusion.exists_layout_filter hlayout' [] kept _ rfl rfl himages hwhole
  rw [hselect] at hlayout''
  rw [List.nil_append, hselect, List.filter_filter] at himages'
  exact ⟨hs', hlayout'', himages'⟩

/-- **The source of a slide.**  It holds the heading of the slide and the kept lines it shows, but
for empty lines at both ends; read on its own it has the records of the span that stay. -/
theorem exists_isSource (hreturn : '\r' ∉ t) (ho : Outline.parse t = .ok o) (hs : s ∈ o.slides)
    (hspan : span ∈ o.slideSpans) :
    ∃ body, IsSource o (lines t) (Exclusion.keptLines o .slides (lines t)) s span body
      (slideSource (Exclusion.keptLines o .slides (lines t)) s span) := by
  obtain ⟨gs, hlayout, hrecords⟩ := Outline.exists_layout ho
  obtain ⟨top, body, bottom, hshown, hempty, htrim⟩ :=
    exists_body (Exclusion.keptLines o .slides (lines t)) s span
  obtain ⟨hbody, hs', hlayout', himages⟩ :=
    exists_layout_body ho hs hspan hlayout hrecords hshown hempty
  have hlines : lines (slideSource (Exclusion.keptLines o .slides (lines t)) s span) =
      if heading s ++ body = [] then [[]] else (heading s ++ body).map Entry.text := by
    rw [slideSource_eq, htrim, lines_join fun l hl =>
      ⟨newline_notMem_of_mem_source ho hs hbody.subset l hl,
        return_notMem_of_mem_source hreturn ho hs hbody.subset l hl⟩]
    simp only [List.map_eq_nil_iff]
  have hread := layout_lines (layout_heading s hlayout')
  simp only [List.map_eq_nil_iff] at hread
  rw [← hlines] at hread
  obtain ⟨o', ho', hrecords'⟩ := Outline.parse_of_layout hread
  refine ⟨body, ⟨top, bottom, hshown, hempty⟩, hlines, o', ho', ?_⟩
  have hmem := (List.forall₂_and_left _ _).mpr
    ⟨fun p (hp : p ∈ _) => List.mem_of_mem_filter hp, himages⟩
  rw [hrecords, hrecords', Layout.records, Layout.records, List.filter_map, List.map_map,
    List.forall₂_map_left_iff, List.forall₂_map_right_iff]
  exact hmem.imp fun p q h => (h.2.behind (heading s)).keptAs hlayout h.1

end

end Deck

end Literate

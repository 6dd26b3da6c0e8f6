import Mathlib
import Literate.Proofs.Deck.Source

/-!
# Titles that are repeated

A break of three hyphens repeats the title before it: the source of its slide starts with a heading
line made of the title.  Read on its own, the source can be read and its first slide is that heading,
but it does not always have the title: a run of number signs at the end of a heading line, alone or
behind a gap, closes the heading, and a title may end with such a run.

* `Layout.exists_dropReturns`: lines that lose a carriage return at their ends keep their layout.
* `Text.exists_eq_append_run`, `Text.dropEndWhile_append_replicate`: runs at the ends of texts.
* `Deck.ClosesItself`: titles that a heading line cuts short.
* `Deck.headingTitle?_titleLine`: what is read of a title that was written as a heading.
* `Deck.sources_title`: the first slide of the source of a break with a title.
-/

namespace Literate

open Text

/-! ## Carriage returns at the ends of lines -/

/-- A carriage return is a blank. -/
theorem isBlank_return : ∀ c ∈ ['\r'], isBlank c = true := List.forall_mem_singleton.mpr (by decide)

theorem isTail_return : Marker.IsTail ['\r'] := .of_blank isBlank_return

namespace Fence

variable {l : Line} {f : Fence}

theorem ofLine?_dropLast?_of_none (h : ofLine? l = none) : ofLine? (dropLast? '\r' l) = none := by
  rcases dropLast?_cases '\r' l with hl | hl
  · rwa [← hl]
  · cases hf : ofLine? (dropLast? '\r' l) with
    | none => rfl
    | some f =>
      have := ofLine?_append hf isTail_return
      rw [← hl, h] at this
      cases this

/-- A carriage return at the end of a fence line is a blank behind its info. -/
theorem ofLine?_dropLast?_of_some (h : ofLine? l = some f) :
    ∃ rest, ofLine? (dropLast? '\r' l) = some { f with rest := rest } ∧ trim rest = f.info := by
  rcases dropLast?_cases '\r' l with hl | hl
  · exact ⟨f.rest, by rwa [← hl], rfl⟩
  · rw [hl] at h
    obtain ⟨rest, hrest, hf⟩ := ofLine?_of_append h isTail_return
    refine ⟨rest, hf, ?_⟩
    rw [info, hrest, trim, trim, trimEnd_append_blank isBlank_return]

end Fence

/-- A fenced range whose lines lose a carriage return each is one. -/
theorem FencedLines.exists_dropReturns (g : FencedLines) :
    ∃ g' : FencedLines, g'.lines = g.lines.map (dropLast? '\r') := by
  obtain ⟨rest, hopens, -⟩ := Fence.ofLine?_dropLast?_of_some g.opens
  obtain ⟨rest', hends, hinfo⟩ := Fence.ofLine?_dropLast?_of_some g.ends
  have hkeeps : ∀ l ∈ g.inner.map (dropLast? '\r'),
      Fence.KeepsOpen { g.fence with rest := rest } l := by
    intro l hl f hf
    obtain ⟨m, hm, rfl⟩ := List.mem_map.mp hl
    cases hread : Fence.ofLine? m with
    | none =>
      rw [Fence.ofLine?_dropLast?_of_none hread] at hf
      cases hf
    | some h =>
      obtain ⟨rest, hdrop, -⟩ := Fence.ofLine?_dropLast?_of_some hread
      rw [hdrop] at hf
      cases hf
      exact g.keepsOpen m hm h hread
  exact ⟨⟨_, _, _, _, _, hopens, hkeeps, hends, g.closes, hinfo.trans g.bare⟩, by simp [lines]⟩

/-- Lines that lose a carriage return each still have a layout. -/
theorem Layout.exists_dropReturns {P : Line → Prop} {n : ℕ} {ls : List Line}
    {gs : List (ℕ × FencedLines)} (h : Layout P n ls gs) :
    ∃ gs', Layout (fun _ => True) n (ls.map (dropLast? '\r')) gs' := by
  induction h with
  | nil => exact ⟨[], .nil⟩
  | line hl hp rest ih =>
    obtain ⟨gs', hgs⟩ := ih
    exact ⟨gs', .line (Fence.ofLine?_dropLast?_of_none hl) trivial hgs⟩
  | @range n ls gs g rest ih =>
    obtain ⟨gs', hgs⟩ := ih
    obtain ⟨g', hg⟩ := g.exists_dropReturns
    have hheight : g.height = g'.height := by
      rw [← FencedLines.length_lines, ← FencedLines.length_lines, hg, List.length_map]
    rw [hheight] at hgs
    rw [List.map_append, ← hg]
    exact ⟨_, .range g' hgs⟩

/-- A document that begins with a top-level heading line has its heading as the first slide. -/
theorem Outline.head?_slides {t : Text} {o : Outline} (ho : Outline.parse t = .ok o) {l : Line}
    {ls : List Line} (hlines : lines t = l :: ls) {title : Text}
    (htitle : LineKind.headingTitle? l = some title) (hbreak : LineKind.isBreak l = false)
    (hblank : allBlank l = false) (hfence : Fence.ofLine? l = none) :
    o.slides.head? = some ⟨1, title, .heading⟩ := by
  obtain ⟨last, items, hread, rfl⟩ := parse_eq_ok_iff.mp ho
  rw [hlines] at hread ⊢
  have hstep : Scan.start.stepProse 1 none l = Scan.slide 1 ⟨1, title, .heading⟩ := by
    simp [Scan.stepProse, Scan.stepText, hfence, hblank, hbreak, htitle]
  have hfirst : firstContent? (l :: ls) = some 1 := by
    simp [firstContent?, List.findIdx?_cons, hblank]
  generalize hall : l :: ls = all at hread hfirst
  cases hread with
  | nil => cases hall
  | @line _ _ open? m ms items hs hm rest =>
    obtain ⟨rfl, rfl⟩ := List.cons.inj hall
    obtain rfl : open? = none := by
      cases hs
      rfl
    rw [show Scan.start.count + 1 = 1 from rfl, hstep]
    simp [Scan.slide, Item.slide?, withImplicit, hfirst]
  | range hs g rest =>
    rw [FencedLines.lines, List.cons_append] at hall
    obtain ⟨rfl, -⟩ := List.cons.inj hall
    rw [g.opens] at hfence
    cases hfence

/-! ## Ends of texts -/

namespace Text

theorem dropEndWhile_of_getLast? {α : Type} {p : α → Bool} {t : List α}
    (h : ∀ c ∈ t.getLast?, p c = false) : dropEndWhile p t = t := by
  rw [dropEndWhile_eq, List.rdropWhile_eq_self_iff]
  intro hne hlast
  rw [h _ (List.getLast?_eq_some_getLast hne)] at hlast
  cases hlast

/-- Every text is a text that does not end with `c` and a run of `c`s behind it. -/
theorem exists_eq_append_run (c : Char) (t : Text) :
    ∃ front n, t = front ++ List.replicate n c ∧ front.getLast? ≠ some c := by
  have hrun : ∀ d ∈ t.rtakeWhile (· == c), d = c := fun d hd =>
    beq_iff_eq.mp (List.mem_rtakeWhile_imp (p := (· == c)) hd)
  refine ⟨t.rdropWhile (· == c), (t.rtakeWhile (· == c)).length, ?_, fun hlast => ?_⟩
  · rw [← List.eq_replicate_length.mpr hrun, List.rdropWhile_append_rtakeWhile]
  · have hne : t.rdropWhile (· == c) ≠ [] := List.ne_nil_of_mem (List.mem_of_getLast? hlast)
    rw [List.getLast?_eq_some_getLast hne] at hlast
    exact List.rdropWhile_last_not (· == c) t hne (beq_iff_eq.mpr (Option.some.inj hlast))

/-- Dropping a run at the end of a text. -/
theorem dropEndWhile_append_replicate {c : Char} {front : Text} (h : front.getLast? ≠ some c)
    (n : ℕ) : dropEndWhile (· == c) (front ++ List.replicate n c) = front := by
  have hhead : front.reverse.head? ≠ some c := by rwa [List.head?_reverse]
  rw [dropEndWhile_eq, List.rdropWhile, List.reverse_append, List.reverse_replicate,
    dropWhile_replicate_append n hhead, List.reverse_reverse]

theorem trim_dropEndWhile_isGap (t : Text) : trim (dropEndWhile isGap t) = trim t := by
  conv_rhs => rw [← List.rdropWhile_append_rtakeWhile (p := isGap) (l := t)]
  rw [trim, trim, dropEndWhile_eq,
    trimEnd_append_blank fun c hc => isBlank_of_isGap (List.mem_rtakeWhile_imp hc)]

end Text

/-! ## A title written as a heading -/

namespace Deck

/-- A title that ends with a run of number signs, alone or behind a gap. -/
def ClosesItself (title : Text) : Prop :=
  ∃ front n, title = front ++ List.replicate (n + 1) '#' ∧ ∀ c ∈ front.getLast?, isGap c = true

variable {title front : Text} {n : ℕ}

/-- A title that is trimmed ends with no gap. -/
theorem dropEndWhile_isGap_of_trim (htrim : trim title = title) :
    dropEndWhile isGap title = title := by
  refine dropEndWhile_of_getLast? fun c hc => ?_
  have hsolid := (trim_eq_self_iff.mp htrim).2 c (by rwa [List.head?_reverse])
  exact Bool.eq_false_iff.mpr fun hgap => by simp [isBlank_of_isGap hgap] at hsolid

/-- A closing run of number signs, with the gaps before it, is no part of a title. -/
theorem trim_dropClosing_of_closes (htrim : trim title = title)
    (htitle : title = front ++ List.replicate (n + 1) '#')
    (hgap : ∀ c ∈ front.getLast?, isGap c = true) :
    trim (LineKind.dropClosing title) = trimEnd front := by
  have hlast : front.getLast? ≠ some '#' := by
    intro hlast
    cases hgap '#' hlast
  have hbody : dropEndWhile (· == '#') title = front := by
    rw [htitle, dropEndWhile_append_replicate hlast]
  have hlength : (front.length == title.length) = false := by simp [htitle]
  have hstart : StartsSolid (trimEnd front) :=
    (trim_eq_self_iff.mp htrim).1.of_isPrefix
      ((trimEnd_isPrefix front).trans (htitle ▸ List.prefix_append front _))
  simp only [LineKind.dropClosing, dropEndWhile_isGap_of_trim htrim, hbody, hlength,
    Bool.false_eq_true, if_false]
  cases hfront : front.getLast? with
  | none =>
    rw [List.getLast?_eq_none_iff.mp hfront]
    rfl
  | some c =>
    simp only [hgap c hfront, if_true]
    rw [trim_dropEndWhile_isGap, trim, trimStart_of_startsSolid hstart]

/-- No other title loses anything. -/
theorem dropClosing_of_not_closes (htrim : trim title = title) (h : ¬ClosesItself title) :
    LineKind.dropClosing title = title := by
  obtain ⟨front, n, htitle, hlast⟩ := exists_eq_append_run '#' title
  have hbody : dropEndWhile (· == '#') title = front := by
    rw [htitle, dropEndWhile_append_replicate hlast]
  simp only [LineKind.dropClosing, dropEndWhile_isGap_of_trim htrim, hbody]
  cases n with
  | zero => simp [htitle]
  | succ n =>
    have hnot : ¬∀ c ∈ front.getLast?, isGap c = true := fun hgap => h ⟨front, n, htitle, hgap⟩
    cases hfront : front.getLast? with
    | none => simp [hfront] at hnot
    | some c =>
      have hgap : isGap c = false := by simpa [hfront] using hnot
      simp [hgap]

/-- What is read of a title that is written as a heading. -/
theorem headingTitle?_titleLine (htrim : trim title = title) :
    LineKind.headingTitle? (titleLine title) = some (trim (LineKind.dropClosing title)) := by
  have hfront : (' ' :: title).dropWhile isGap = title := by
    rw [List.dropWhile_cons_of_pos (by rfl)]
    cases title with
    | nil => rfl
    | cons c title =>
      have hsolid := (trim_eq_self_iff.mp htrim).1 c rfl
      exact List.dropWhile_cons_of_neg fun hgap => by simp [isBlank_of_isGap hgap] at hsolid
  have hgap : isGap ' ' = true := rfl
  simp [LineKind.headingTitle?, LineKind.unindented?, titleLine, LineKind.endsOrGap, hgap, hfront,
    dropEndWhile_isGap_of_trim htrim]

/-! ## The source of a break -/

section

variable {t : Text} {o : Outline} {s : Slide} {span : Span}

/-- The source of a break with a title can be read, and it begins with the title as a heading. -/
theorem exists_parse_source (ho : Outline.parse t = .ok o) (hs : s ∈ o.slides)
    (hspan : span ∈ o.slideSpans) (hkind : s.kind = .break) (htitle : s.title ≠ []) :
    ∃ ls o', lines (slideSource (Exclusion.keptLines o .slides (lines t)) s span) =
        titleLine s.title :: ls ∧
      Outline.parse (slideSource (Exclusion.keptLines o .slides (lines t)) s span) = .ok o' := by
  obtain ⟨gs, hlayout, hrecords⟩ := Outline.exists_layout ho
  obtain ⟨top, body, bottom, hshown, hempty, hsource⟩ :=
    exists_body (Exclusion.keptLines o .slides (lines t)) s span
  obtain ⟨hbody, hs', hlayout', -⟩ :=
    exists_layout_body ho hs hspan hlayout hrecords hshown hempty
  have hheading : heading s = [⟨0, titleLine s.title⟩] := by simp [heading, hkind, htitle]
  have hlines : lines (slideSource (Exclusion.keptLines o .slides (lines t)) s span) =
      ((heading s ++ body).map Entry.text).map (dropLast? '\r') := by
    rw [slideSource_eq, hsource,
      lines_join_newline (newline_notMem_of_mem_source ho hs hbody.subset), if_neg]
    simp [hheading]
  obtain ⟨gs', hread⟩ := (layout_heading s hlayout').exists_dropReturns
  rw [← hlines] at hread
  obtain ⟨o', ho', -⟩ := Outline.parse_of_layout hread
  -- a title does not end with a blank, so its heading loses nothing
  have hdrop : dropLast? '\r' (titleLine s.title) = titleLine s.title := by
    refine dropLast?_of_getLast?_ne fun hlast => ?_
    have hend := (trim_eq_self_iff.mp (Outline.trim_title ho hs)).2 '\r'
    rw [titleLine, List.getLast?_cons_of_ne_nil (by simp), List.getLast?_cons_of_ne_nil htitle]
      at hlast
    rw [List.head?_reverse] at hend
    cases hend hlast
  refine ⟨(body.map Entry.text).map (dropLast? '\r'), o', ?_, ho'⟩
  rw [hlines, hheading, List.singleton_append, List.map_cons, List.map_cons, hdrop]

/-- The first slide of the source of a break with a title is a heading: what is read of the title. -/
theorem exists_first_slide (ho : Outline.parse t = .ok o) (hs : s ∈ o.slides)
    (hspan : span ∈ o.slideSpans) (hkind : s.kind = .break) (htitle : s.title ≠ []) :
    ∃ o', Outline.parse (slideSource (Exclusion.keptLines o .slides (lines t)) s span) = .ok o' ∧
      o'.slides.head? = some ⟨1, trim (LineKind.dropClosing s.title), .heading⟩ := by
  obtain ⟨ls, o', hlines, ho'⟩ := exists_parse_source ho hs hspan hkind htitle
  have hbreak : LineKind.isBreak (titleLine s.title) = false := by
    simp [LineKind.isBreak, LineKind.unindented?, LineKind.isBreakOf, titleLine]
  have hblank : allBlank (titleLine s.title) = false := by
    simp [allBlank, titleLine, show isBlank '#' = false by decide]
  exact ⟨o', ho', Outline.head?_slides ho' hlines
    (headingTitle?_titleLine (Outline.trim_title ho hs)) hbreak hblank
    (ofLine?_titleLine s.title)⟩

end

/-- **A repeated title.**  The source of every break with a title can be read on its own, and its
first slide is a heading on line one.  The heading has the title of the break unless the title ends
with a run of number signs, alone or behind a gap.  Such a run closes the heading, and what stands
before it is read as the title. -/
theorem sources_title {t : Text} {o : Outline} (ho : Outline.parse t = .ok o) :
    ∃ sources, Deck.sources t = .ok sources ∧ sources.length = o.slides.length ∧
      ∀ (i : ℕ) (s : Slide) (source : Text), o.slides[i]? = some s → sources[i]? = some source →
        s.kind = .break → s.title ≠ [] →
        ∃ o' title, Outline.parse source = .ok o' ∧
          o'.slides.head? = some ⟨1, title, .heading⟩ ∧ (title = s.title ↔ ¬ClosesItself s.title) ∧
          ∀ front n, s.title = front ++ List.replicate (n + 1) '#' →
            (∀ c ∈ front.getLast?, isGap c = true) → title = trimEnd front := by
  have hlength : (sourcesOf o (Exclusion.keptLines o .slides (lines t))).length =
      o.slides.length := by
    rw [sourcesOf, List.length_map, List.length_zip, Outline.length_slideSpans, Nat.min_self]
  refine ⟨_, by rw [sources, ho], hlength, fun i s source hs hsource hkind htitle => ?_⟩
  obtain ⟨⟨s', span⟩, hzip, rfl⟩ : ∃ x, (o.slides.zip o.slideSpans)[i]? = some x ∧
      slideSource (Exclusion.keptLines o .slides (lines t)) x.1 x.2 = source := by
    simpa [sourcesOf] using hsource
  obtain ⟨hs', hspan⟩ := List.getElem?_zip_eq_some.mp hzip
  obtain rfl : s = s' := Option.some.inj (hs.symm.trans hs')
  have hmem : s ∈ o.slides := List.mem_of_getElem? hs
  have htrim : trim s.title = s.title := Outline.trim_title ho hmem
  obtain ⟨o', ho', hfirst⟩ :=
    exists_first_slide ho hmem (List.mem_of_getElem? hspan) hkind htitle
  refine ⟨o', _, ho', hfirst, ⟨fun hsame => ?_, fun hnot => ?_⟩, fun front n hfront hgap =>
    trim_dropClosing_of_closes htrim hfront hgap⟩
  · rintro ⟨front, n, hfront, hgap⟩
    rw [trim_dropClosing_of_closes htrim hfront hgap] at hsame
    have hlonger := congrArg List.length (hsame.trans hfront)
    have hshorter := (trimEnd_isPrefix front).length_le
    rw [List.length_append, List.length_replicate] at hlonger
    omega
  · rw [dropClosing_of_not_closes htrim hnot, htrim]

/-- An underlined title of two lines, with a number sign in it, is repeated twice. -/
theorem sources_title_underlined :
    let t := "C#\ncode\n===\n---\nx\n\n---\n".toList
    let title := "C# code".toList
    let o : Outline := ⟨7, [], [⟨1, title, .heading⟩, ⟨4, title, .break⟩, ⟨7, title, .break⟩]⟩
    let source := "# C# code\nx\n".toList
    Outline.parse t = .ok o ∧
      Deck.sources t = .ok ["C#\ncode\n===\n".toList, source, "# C# code\n".toList] ∧
      ∃ o', Outline.parse source = .ok o' ∧ o'.slides.head? = some ⟨1, title, .heading⟩ := by
  intro t title o source
  have ho : Outline.parse t = .ok o := by decide +kernel
  have hsources : Deck.sources t = .ok ["C#\ncode\n===\n".toList, source, "# C# code\n".toList] := by
    decide +kernel
  have hopen : ¬ClosesItself title := by
    rintro ⟨front, n, htitle, -⟩
    have hlast := congrArg List.getLast? htitle
    rw [List.replicate_succ', ← List.append_assoc, List.getLast?_concat] at hlast
    revert hlast
    decide
  obtain ⟨sources, h, -, hbreaks⟩ := sources_title ho
  obtain rfl := Except.ok.inj (hsources.symm.trans h)
  obtain ⟨o', title', ho', hfirst, hsame, -⟩ :=
    hbreaks 1 ⟨4, title, .break⟩ source rfl rfl rfl (by decide)
  rw [hsame.mpr hopen] at hfirst
  exact ⟨ho, hsources, o', ho', hfirst⟩

/-- The underlined title `A #` is repeated as a heading line that is closed by its number sign. -/
theorem sources_title_closed :
    ¬ ∀ (t : Text) (o : Outline) (sources : List Text), Outline.parse t = .ok o →
      Deck.sources t = .ok sources → ∀ (i : ℕ) (s : Slide) (source : Text),
        o.slides[i]? = some s → sources[i]? = some source → s.kind = .break → s.title ≠ [] →
        ∃ o', Outline.parse source = .ok o' ∧
          o'.slides.head? = some ⟨1, s.title, .heading⟩ := by
  intro hclaim
  obtain ⟨o', ho', hfirst⟩ := hclaim "A #\n===\n---\n".toList
    ⟨3, [], [⟨1, "A #".toList, .heading⟩, ⟨3, "A #".toList, .break⟩]⟩
    ["A #\n===\n".toList, "# A #\n".toList] (by decide +kernel) (by decide +kernel) 1
    ⟨3, "A #".toList, .break⟩ "# A #\n".toList rfl rfl rfl (by decide)
  have hread : Outline.parse "# A #\n".toList = .ok ⟨1, [], [⟨1, ['A'], .heading⟩]⟩ := by
    decide +kernel
  obtain rfl := Except.ok.inj (hread.symm.trans ho')
  revert hfirst
  decide

end Deck

end Literate

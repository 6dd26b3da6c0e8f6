import Mathlib
import Literate.Proofs.Outline.FenceStructure
import Literate.Proofs.Text.Join
import Literate.Proofs.Text.Lines

/-!
# Titles passed on

A break of three hyphens takes the title of the slide before it, so what is read before some lines
changes the titles of their first slides and nothing else of what they finish.

* `Slide.repeats`, `Slide.carry`: the slides that take a title over, and what becomes of them.
* `Reading.retitle`: the same lines read behind another title.
* `Reading.title_end`: the title that a reading hands on is that of its last slide.
* `TitleRule`: what lines give to the titles that come from them.
* `Outline.mem_of_mem_title`: titles are made of the characters of lines, and of spaces.
* `Outline.trim_title`: titles have no blanks at their ends.
-/

namespace Literate

open Text

namespace Slide

/-- Whether a slide of a document is a break of exactly three hyphens. -/
def repeats (ls : List Line) (s : Slide) : Bool :=
  s.kind = .break && (lineAt? ls s.startLine).any Scan.isRepeat

/-- The slides behind a title: those at the front that repeat the title before them take it. -/
def carry (ls : List Line) (title : Text) (slides : List Slide) : List Slide :=
  ((slides.takeWhile (repeats ls)).map fun s => { s with title }) ++
    slides.dropWhile (repeats ls)

variable {ls : List Line} {s : Slide}

theorem carry_cons_of_repeats (h : s.repeats ls = true) (title : Text) (slides : List Slide) :
    carry ls title (s :: slides) = { s with title } :: carry ls title slides := by
  simp [carry, h]

theorem carry_cons_of_not_repeats (h : s.repeats ls = false) (title : Text) (slides : List Slide) :
    carry ls title (s :: slides) = s :: slides := by
  simp [carry, h]

end Slide

namespace Scan

/-- What reading line `n` does behind another title: the same with no slide, the same with a slide
that has its own title, or the same break with the other title. -/
inductive Retitled (title : Option Text) (n : ℕ) (l : Line) :
    Scan × Option Item → Scan × Option Item → Prop
  | silent (next : Scan) : Retitled title n l (next, none) ({ next with title }, none)
  | own (next : Scan) {s : Slide} (h : s.kind = .heading ∨ s.startLine = n ∧ isRepeat l = false) :
      Retitled title n l (next, some (.slide s)) (next, some (.slide s))
  | repeated (h : isRepeat l = true) (old : Text) :
      Retitled title n l (slide n ⟨n, old, .break⟩) (slide n ⟨n, title.getD [], .break⟩)

theorem stepText_retitle (s : Scan) (title : Option Text) (n : ℕ) (open? : Option Paragraph)
    (l : Line) :
    Retitled title n l (s.stepText n open? l) (stepText { s with title } n open? l) := by
  rw [stepText.eq_def, stepText.eq_def]
  cases LineKind.isBreak l with
  | true =>
    cases hr : isRepeat l with
    | true => exact .repeated hr _
    | false => exact .own _ (.inr ⟨rfl, hr⟩)
  | false =>
    cases LineKind.headingTitle? l with
    | some t => exact .own _ (.inl rfl)
    | none =>
      cases LineKind.isHeading l || LineKind.isQuote l with
      | true => exact .silent _
      | false => cases open? <;> exact .silent _

/-- Outside fences a line is read alike behind every title, but for a break that repeats it. -/
theorem stepProse_retitle (s : Scan) (title : Option Text) (n : ℕ) (open? : Option Paragraph)
    {l : Line} (hl : Fence.ofLine? l = none) :
    Retitled title n l (s.stepProse n open? l) (stepProse { s with title } n open? l) := by
  have htext := stepText_retitle s title n open? l
  rw [stepProse.eq_def, stepProse.eq_def, hl]
  cases allBlank l with
  | true => exact .silent _
  | false =>
    cases open? with
    | none => exact htext
    | some p =>
      cases hp : p.inList with
      | true => simpa [hp] using htext
      | false =>
        cases hu : LineKind.isUnderline1 l with
        | true =>
          have : Retitled title n l (slide n ⟨p.startLine, p.title, .heading⟩)
              (slide n ⟨p.startLine, p.title, .heading⟩) := .own _ (.inl rfl)
          simpa [hp] using this
        | false =>
          cases hu2 : LineKind.isUnderline2 l with
          | true =>
            have : Retitled title n l (s.skip n none) (skip { s with title } n none) := .silent _
            simpa [hp] using this
          | false => simpa [hp] using htext

end Scan

namespace Reading

variable {s t : Scan} {ls : List Line} {items : List Item}

/-- **Reading behind another title.**  The same lines finish the same slides, but for those at the
front that repeat the title before them; `front` are the lines before. -/
theorem retitle (h : Reading s ls t items) :
    ∀ (title : Option Text) (front : List Line), front.length = s.count →
      ∃ u more, Reading { s with title } ls u more ∧ more.filterMap Item.slide? =
        Slide.carry (front ++ ls) (title.getD []) (items.filterMap Item.slide?) := by
  induction h with
  | nil hs => exact fun title front _ => ⟨_, [], .nil hs, rfl⟩
  | @line s t open? l ls items hs hl rest ih =>
    intro title front hfront
    have hat : lineAt? (front ++ l :: ls) (s.count + 1) = some l := by
      rw [← hfront]
      exact lineAt?_append 0
    have hfront' : (front ++ [l]).length = (s.stepProse (s.count + 1) open? l).1.count := by
      rw [(Scan.stepProse_mode s _ open? hl).1, List.length_append, hfront, List.length_singleton]
    have hline : ∀ {u more}, Reading (Scan.stepProse { s with title } (s.count + 1) open? l).1 ls
        u more → Reading { s with title } (l :: ls) u
          ((Scan.stepProse { s with title } (s.count + 1) open? l).2.toList ++ more) :=
      fun hrest => .line hs hl hrest
    have hstep := Scan.stepProse_retitle s title (s.count + 1) open? hl
    rw [← List.singleton_append, ← List.append_assoc] at hat ⊢
    generalize s.stepProse (s.count + 1) open? l = r at hstep rest ih hfront'
    generalize Scan.stepProse { s with title } (s.count + 1) open? l = r' at hstep hline
    cases hstep with
    | silent next =>
      obtain ⟨u, more, hread, hslides⟩ := ih title (front ++ [l]) hfront'
      exact ⟨u, more, hline hread, hslides⟩
    | @own next sl hown =>
      have hnot : sl.repeats (front ++ [l] ++ ls) = false := by
        rcases hown with hkind | ⟨hstart, hl⟩
        · simp [Slide.repeats, hkind]
        · simp only [Slide.repeats, hstart, hat, Option.any_some, hl, Bool.and_false]
      exact ⟨t, _, hline rest, (Slide.carry_cons_of_not_repeats hnot _ _).symm⟩
    | repeated hr old =>
      have hrep : Slide.repeats (front ++ [l] ++ ls) ⟨s.count + 1, old, .break⟩ = true := by
        simp only [Slide.repeats, hat, Option.any_some, hr, decide_true, Bool.and_true]
      obtain ⟨u, more, hread, hslides⟩ := ih (some (title.getD [])) (front ++ [l]) hfront'
      refine ⟨u, _, hline hread, ?_⟩
      exact (congrArg _ hslides).trans (Slide.carry_cons_of_repeats hrep _ _).symm
  | @range s t open? ls items hs g rest ih =>
    intro title front hfront
    obtain ⟨u, more, hread, hslides⟩ := ih title (front ++ g.lines) (by simp [hfront])
    rw [List.append_assoc] at hslides
    exact ⟨u, _, .range (s := { s with title }) hs g hread, hslides⟩

/-- The title handed on is that of the last slide. -/
theorem title_end (h : Reading s ls t items) :
    t.title = ((items.filterMap Item.slide?).getLast?.map Slide.title).or s.title := by
  induction h with
  | nil => rfl
  | @line s t open? l ls items hs hl rest ih =>
    have hspec := Scan.stepProse_spec s (s.count + 1) open? hl
    rw [ih]
    generalize s.stepProse (s.count + 1) open? l = r at hspec
    cases hspec with
    | blank | underline2 | aside | begins | «extends» => rfl
    | underline1 | rule | heading =>
      simp only [Scan.slide, Option.toList_some, List.singleton_append, List.filterMap_cons,
        Item.slide?, List.getLast?_cons]
      cases (items.filterMap Item.slide?).getLast? <;> rfl
  | range hs g rest ih => exact ih

/-- No slide that is read is the implicit one. -/
theorem kind_ne_implicit (h : Reading s ls t items) :
    ∀ sl ∈ items.filterMap Item.slide?, sl.kind ≠ .implicit := by
  induction h with
  | nil => simp
  | @line s t open? l ls items hs hl rest ih =>
    have hspec := Scan.stepProse_spec s (s.count + 1) open? hl
    generalize s.stepProse (s.count + 1) open? l = r at hspec
    cases hspec with
    | blank | underline2 | aside | begins | «extends» => exact ih
    | underline1 | rule | heading =>
      exact List.forall_mem_cons.mpr ⟨by simp, ih⟩
  | range hs g rest ih => exact ih

end Reading

/-! ## What titles are made of -/

/-- A title that a heading line gives stands in that line. -/
theorem LineKind.headingTitle?_sublist {l : Line} {title : Text}
    (h : headingTitle? l = some title) : title.Sublist l := by
  have hclosing : ∀ t : Text, (dropClosing t).Sublist t := by
    intro t
    unfold dropClosing
    dsimp only
    split_ifs
    · exact .refl t
    · split
      · exact List.nil_sublist t
      · split_ifs
        · exact (dropEndWhile_isPrefix isGap _).sublist.trans
            ((dropEndWhile_isPrefix (· == '#') _).sublist.trans
              (dropEndWhile_isPrefix isGap t).sublist)
        · exact .refl t
  rw [headingTitle?] at h
  split at h
  · rename_i r hr
    split_ifs at h
    obtain rfl := Option.some.inj h
    have hline : ('#' :: r).Sublist l := by
      rw [unindented?] at hr
      split_ifs at hr
      rw [← Option.some.inj hr]
      exact List.dropWhile_sublist _
    have hgaps : (dropEndWhile isGap (r.dropWhile isGap)).Sublist r :=
      (dropEndWhile_isPrefix isGap _).sublist.trans (List.dropWhile_sublist isGap)
    have htitle : (trim (dropClosing (dropEndWhile isGap (r.dropWhile isGap)))).Sublist r :=
      (trim_sublist _).trans ((hclosing _).trans hgaps)
    exact htitle.trans ((List.sublist_cons_self '#' r).trans hline)
  · cases h

/-- A title that a heading line gives has no blanks at its ends. -/
theorem LineKind.trim_headingTitle? {l : Line} {title : Text}
    (h : headingTitle? l = some title) : trim title = title := by
  rw [headingTitle?] at h
  split at h
  · split_ifs at h
    rw [← Option.some.inj h, trim_trim]
  · cases h

/-- A property that titles have when they come from lines with the property `D`: `T` is the property
of titles, `Q` that of the lines of a paragraph. -/
structure TitleRule (D : Line → Prop) (Q : List Line → Prop) (T : Text → Prop) : Prop where
  untitled : T []
  heading : ∀ {l title}, D l → LineKind.headingTitle? l = some title → T title
  underlined : ∀ {ls}, Q ls → T (join [' '] (ls.map trim))
  begun : ∀ {l}, D l → allBlank l = false → Q [l]
  added : ∀ {ls l}, Q ls → D l → allBlank l = false → Q (ls ++ [l])

section

variable {D : Line → Prop} {Q : List Line → Prop} {T : Text → Prop}

namespace Scan

/-- The last title and the open paragraph have the properties of a rule. -/
structure Keeps (Q : List Line → Prop) (T : Text → Prop) (s : Scan) : Prop where
  title : ∀ t ∈ s.title, T t
  paragraph : ∀ p, s.mode = .prose (some p) → Q p.lines

/-- Reading a line, titles come from the line, from the open paragraph and from the last title. -/
theorem ProseStep.keeps (hrule : TitleRule D Q T) {s : Scan} {n : ℕ} {l : Line}
    {open? : Option Paragraph} {next : Scan × Option Item} (hs : s.Keeps Q T)
    (hopen : s.mode = .prose open?) (hl : D l) (h : ProseStep s n l open? next) :
    next.1.Keeps Q T ∧ ∀ sl ∈ next.2.toList.filterMap Item.slide?, T sl.title := by
  have hslide : ∀ sl : Slide, T sl.title → (slide n sl).1.Keeps Q T ∧
      ∀ sl' ∈ (slide n sl).2.toList.filterMap Item.slide?, T sl'.title := by
    intro sl htitle
    refine ⟨⟨?_, ?_⟩, ?_⟩
    · simpa [slide] using htitle
    · simp [slide]
    · simpa [slide, Item.slide?] using htitle
  have hskip : ∀ next? : Option Paragraph, (∀ p, next? = some p → Q p.lines) →
      (s.skip n next?).1.Keeps Q T ∧
        ∀ sl ∈ (s.skip n next?).2.toList.filterMap Item.slide?, T sl.title := by
    intro next? hnext
    refine ⟨⟨hs.title, ?_⟩, by simp [skip]⟩
    simpa [skip] using hnext
  cases h with
  | blank | underline2 | aside => exact hskip none (by simp)
  | underline1 => exact hslide _ (hrule.underlined (hs.paragraph _ hopen))
  | rule =>
    refine hslide _ ?_
    split_ifs
    · cases ht : s.title with
      | none => exact hrule.untitled
      | some t => exact hs.title t ht
    · exact hrule.untitled
  | heading _ _ ht => exact hslide _ (hrule.heading hl ht)
  | begins hblank => exact hskip _ (by simpa using hrule.begun hl hblank)
  | @«extends» p hblank =>
    refine hskip _ fun p' hp' => ?_
    obtain rfl := Option.some.inj hp'
    exact hrule.added (hs.paragraph p hopen) hl hblank

end Scan

/-- Titles come from the lines read and from what was there before. -/
theorem Reading.keeps (hrule : TitleRule D Q T) {s t : Scan} {ls : List Line} {items : List Item}
    (h : Reading s ls t items) (hs : s.Keeps Q T) (hls : ∀ l ∈ ls, D l) :
    ∀ sl ∈ items.filterMap Item.slide?, T sl.title := by
  induction h with
  | nil => simp
  | @line s t open? l ls items hopen hl rest ih =>
    rw [List.forall_mem_cons] at hls
    obtain ⟨hnext, hslides⟩ :=
      (Scan.stepProse_spec s (s.count + 1) open? hl).keeps hrule hs hopen hls.1
    rw [List.filterMap_append]
    exact List.forall_mem_append.mpr ⟨hslides, ih hnext hls.2⟩
  | range hopen g rest ih =>
    rw [List.forall_mem_append] at hls
    exact ih ⟨hs.title, by simp⟩ hls.2

/-- Every title of a document has a property that its lines give to titles. -/
theorem TitleRule.title {t : Text} {o : Outline} (hrule : TitleRule D Q T)
    (ho : Outline.parse t = .ok o) (hls : ∀ l ∈ lines t, D l) : ∀ s ∈ o.slides, T s.title := by
  obtain ⟨last, items, hread, rfl⟩ := Outline.parse_eq_ok_iff.mp ho
  have hslides := hread.keeps hrule ⟨by simp [Scan.start], by simp [Scan.start]⟩ hls
  rcases Outline.withImplicit_cases (lines t) (items.filterMap Item.slide?) with heq | ⟨heq, -⟩
  · simp only [heq]
    exact hslides
  · simp only [heq]
    exact List.forall_mem_cons.mpr ⟨hrule.untitled, hslides⟩

end

namespace Outline

variable {t : Text} {o : Outline} {s : Slide}

/-- **Titles are made of lines.**  A character of a title is a space, or it stands in a line. -/
theorem mem_of_mem_title (ho : Outline.parse t = .ok o) (hs : s ∈ o.slides) {c : Char}
    (hc : c ∈ s.title) : c = ' ' ∨ ∃ l ∈ lines t, c ∈ l := by
  let C : Char → Prop := fun c => c = ' ' ∨ ∃ l ∈ lines t, c ∈ l
  have hrule : TitleRule (fun l => ∀ c ∈ l, C c) (fun ls => ∀ l ∈ ls, ∀ c ∈ l, C c)
      (fun title => ∀ c ∈ title, C c) :=
    { untitled := by simp
      heading := fun hl ht c hc => hl c ((LineKind.headingTitle?_sublist ht).subset hc)
      underlined := by
        intro ls hls c hc
        rcases mem_join hc with hc | ⟨part, hpart, hc⟩
        · exact .inl (List.mem_singleton.mp hc)
        · obtain ⟨l, hl, rfl⟩ := List.mem_map.mp hpart
          exact hls l hl c ((trim_sublist l).subset hc)
      begun := fun hl _ => by simpa using hl
      added := fun hls hl _ => List.forall_mem_append.mpr ⟨hls, by simpa using hl⟩ }
  exact hrule.title ho (fun l hl c hc => .inr ⟨l, hl, hc⟩) s hs c hc

/-- **Titles have no blanks at their ends.** -/
theorem trim_title (ho : Outline.parse t = .ok o) (hs : s ∈ o.slides) :
    trim s.title = s.title := by
  have hrule : TitleRule (fun _ => True) (fun ls => ∀ l ∈ ls, allBlank l = false)
      (fun title => trim title = title) :=
    { untitled := rfl
      heading := fun _ ht => LineKind.trim_headingTitle? ht
      underlined := by
        intro ls hls
        refine trim_join fun part hpart => ?_
        obtain ⟨l, hl, rfl⟩ := List.mem_map.mp hpart
        exact ⟨trim_trim l, trim_ne_nil (hls l hl)⟩
      begun := fun _ hb => by simpa using hb
      added := fun hls _ hb => List.forall_mem_append.mpr ⟨hls, by simpa using hb⟩ }
  exact hrule.title ho (fun _ _ => trivial) s hs

end Outline

end Literate

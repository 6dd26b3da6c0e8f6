import Mathlib
import Literate.Proofs.Outline.Attached
import Literate.Proofs.Outline.Relocation
import Literate.Proofs.Outline.Titles
import Literate.Proofs.Text.Lines

/-!
# Documents put together

A document behind whole lines that can be read is read as it is alone, only further down: fences know
nothing of the text before them, so records and errors move by the number of lines.  Slides do know:
an open paragraph may go on into the second document and turn into a heading there.  Where none is
open, the slides compose as well, with the title of the last slide passed on.

* `Outline.withImplicit_append`, `Outline.withImplicit_blank_append`: the implicit slide of documents
  put together.
* `Outline.Composed`: what documents put together have to do with the two of them.
* `Outline.parse_append`: reading is compositional.
-/

namespace Literate

open Text

/-! ## Records further down -/

theorem FencedLines.record_shift (g : FencedLines) (n k : ℕ) :
    g.record (n + k) = (g.record n).shift k := by
  have hf : ConsecutiveFrom n (· + k) := fun m _ => by simp only; omega
  rw [g.record_relocate hf]
  cases g.record n <;> rfl

theorem Layout.records_shift (gs : List (ℕ × FencedLines)) (k : ℕ) :
    records (gs.map fun p => (p.1 + k, p.2)) = (records gs).map (Record.shift k) := by
  rw [records, records, List.map_map, List.map_map]
  exact List.map_congr_left fun p _ => p.2.record_shift p.1 k

/-- What is taken out of records and moves with them. -/
theorem Record.filterMap_append_shift {β : Type} {p : Record → Option β} {f : β → β} {k : ℕ}
    (h : ∀ r, p (r.shift k) = (p r).map f) (front back : List Record) :
    (front ++ back.map (Record.shift k)).filterMap p =
      front.filterMap p ++ (back.filterMap p).map f := by
  rw [List.filterMap_append, List.filterMap_map, List.map_filterMap]
  exact congrArg _ (List.filterMap_congr fun r _ => h r)

/-! ## The end of a document -/

namespace Reading

variable {s t : Scan} {ls : List Line} {items : List Item}

/-- No paragraph is open behind a blank line. -/
theorem mode_end_of_blank (h : Reading s ls t items) {l : Line} (hl : ls.getLast? = some l)
    (hb : allBlank l = true) : t.mode = .prose none := by
  induction h with
  | nil => cases hl
  | @line s t open? m ls items hs hm rest ih =>
    cases ls with
    | nil =>
      obtain rfl : m = l := by simpa using hl
      obtain ⟨rfl, -⟩ := rest.nil_inv
      rw [Scan.stepProse_blank _ _ _ hb]
      rfl
    | cons m' ls => exact ih (by rwa [List.getLast?_cons_cons] at hl)
  | @range s t open? ls items hs g rest ih =>
    cases ls with
    | nil =>
      obtain rfl : g.closer = l := by simpa [FencedLines.lines, List.getLast?_cons] using hl
      rw [Fence.allBlank_eq_false_of_ofLine? g.ends] at hb
      cases hb
    | cons m ls => exact ih (by rwa [List.getLast?_append_of_ne_nil _ (by simp)] at hl)

/-- No paragraph is open behind a record. -/
theorem mode_end_of_record (h : Reading s ls t items) {r : Record} (hr : Item.record r ∈ items)
    (hend : r.endLine = t.count) : t.mode = .prose none := by
  obtain ⟨pre, g, post, mid, before, after, rfl, hpre, rfl, hpost, rfl⟩ := h.record_inv hr
  rw [FencedLines.endLine_record, hpost.count_end] at hend
  obtain rfl : post = [] := List.length_eq_zero_iff.mp (by simp only at hend; omega)
  obtain ⟨rfl, -⟩ := hpost.nil_inv
  rfl

/-- No paragraph is open behind a document whose last line is blank or closes a record. -/
theorem mode_end_of_last (h : Reading Scan.start ls t items) (hne : ls ≠ [])
    (hlast : ∀ l ∈ ls.getLast?, allBlank l = true ∨
      ∃ r ∈ items.filterMap Item.record?, r.endLine = ls.length) : t.mode = .prose none := by
  rcases hlast _ (List.getLast?_eq_some_getLast hne) with hb | ⟨r, hr, hend⟩
  · exact h.mode_end_of_blank (List.getLast?_eq_some_getLast hne) hb
  · refine h.mode_end_of_record (Outline.mem_records_iff.mp hr) ?_
    rw [h.count_end, hend]
    simp [Scan.start]

/-- What is read behind a place that no paragraph spans is read there, further down. -/
theorem append_relocated {ms : List Line} {u : Scan} {title : Option Text} {more : List Item}
    (h : Reading Scan.start ls ⟨ls.length, .prose none, title⟩ items)
    (h' : Reading ⟨0, .prose none, title⟩ ms u more) :
    ∃ v, Reading Scan.start (ls ++ ms) v (items ++ more.map (Item.relocate (· + ls.length))) := by
  have hf : ConsecutiveFrom 0 (· + ls.length) := fun m _ => by simp only; omega
  have hmoved := h'.relocate hf
  rw [Scan.relocate_none, Nat.zero_add] at hmoved
  exact ⟨_, h.append hmoved⟩

end Reading

namespace Outline

/-! ## The implicit slide -/

/-- Behind content the implicit slide is settled. -/
theorem withImplicit_append {front back : List Line} (hcontent : ∃ l ∈ front, allBlank l = false)
    (slides : List Slide) {more : List Slide} (hmore : ∀ s ∈ more, front.length < s.startLine) :
    withImplicit (front ++ back) (slides ++ more) = withImplicit front slides ++ more := by
  obtain ⟨first, -, hle, hfirst⟩ := firstContent?_append hcontent
  have hfront := hfirst []
  rw [List.append_nil] at hfront
  rw [withImplicit, withImplicit, hfirst back, hfront]
  cases slides with
  | cons s slides =>
    simp only [List.cons_append]
    split_ifs <;> rfl
  | nil =>
    cases more with
    | nil => rfl
    | cons s more =>
      have := hmore s (by simp)
      simp only [List.nil_append, List.singleton_append]
      rw [if_pos (by omega)]

/-- Behind blank lines the implicit slide is that of the lines that follow, at line one. -/
theorem withImplicit_blank_append {front back : List Line} (hblank : ∀ l ∈ front, allBlank l = true)
    {slides : List Slide} (hkind : ∀ s ∈ slides, s.kind ≠ .implicit) :
    withImplicit (front ++ back) (slides.map (Slide.shift front.length)) =
      (withImplicit back slides).map fun s =>
        if s.kind = .implicit then s else s.shift front.length := by
  have hmap : slides.map (Slide.shift front.length) = slides.map fun s =>
      if s.kind = .implicit then s else s.shift front.length :=
    List.map_congr_left fun s hs => (if_neg (hkind s hs)).symm
  have hfirst : firstContent? (front ++ back) =
      (firstContent? back).map (· + front.length) := by
    have hnone : front.findIdx? (!allBlank ·) = none := by
      rw [List.findIdx?_eq_none_iff]
      intro l hl
      simp [hblank l hl]
    rw [firstContent?, firstContent?, List.findIdx?_append, hnone, Option.none_or, Option.map_map,
      Option.map_map]
    exact Option.map_congr fun n _ => by simp only [Function.comp_apply]; omega
  rw [withImplicit, withImplicit, hfirst]
  cases firstContent? back with
  | none => exact hmap
  | some first =>
    cases slides with
    | nil => rfl
    | cons s slides =>
      have hs := hkind s (by simp)
      simp only [Option.map_some, List.map_cons, Slide.shift] at hmap ⊢
      split_ifs with h1 h2 h2
      · simpa using hmap
      · omega
      · omega
      · simpa using hmap

theorem filter_withImplicit {slides : List Slide} (hkind : ∀ s ∈ slides, s.kind ≠ .implicit)
    (ls : List Line) : (withImplicit ls slides).filter (·.kind ≠ .implicit) = slides := by
  have hself : slides.filter (·.kind ≠ .implicit) = slides := by
    rw [List.filter_eq_self]
    exact fun s hs => by simpa using hkind s hs
  rcases withImplicit_cases ls slides with h | ⟨h, -⟩
  · rw [h, hself]
  · rw [h, List.filter_cons_of_neg (by simp), hself]

/-- The title of the last slide, empty when there is none. -/
def lastTitle (o : Outline) : Text := (o.slides.getLast?.map Slide.title).getD []

/-- The title of the last slide is what a reading hands on. -/
theorem lastTitle_eq {last : Scan} {ls : List Line} {items : List Item}
    (h : Reading Scan.start ls last items) (n : ℕ) (records : List Record) :
    lastTitle ⟨n, records, withImplicit ls (items.filterMap Item.slide?)⟩ =
      last.title.getD [] := by
  rw [h.title_end, lastTitle]
  cases hs : items.filterMap Item.slide? with
  | nil => rcases withImplicit_cases ls [] with hw | ⟨hw, -⟩ <;> rw [hw] <;> rfl
  | cons s slides =>
    have hlast : (withImplicit ls (s :: slides)).getLast? = (s :: slides).getLast? := by
      rcases withImplicit_cases ls (s :: slides) with hw | ⟨hw, -⟩ <;> rw [hw]
      rw [List.getLast?_cons_cons]
    simp only [hlast, List.getLast?_cons]
    rfl

/-! ## Composition -/

/-- What a document `a ++ b`, read to `o`, has to do with `a`, read to `oa`, and `b`, read to
`ob`. -/
structure Composed (a b : Text) (oa ob o : Outline) : Prop where
  lineCount_eq : o.lineCount = oa.lineCount + ob.lineCount
  records_eq : o.records = oa.records ++ ob.records.map (Record.shift oa.lineCount)
  blocks_eq : o.blocks = oa.blocks ++ ob.blocks.map (Block.shift oa.lineCount)
  outputs_eq : o.outputs = oa.outputs ++ ob.outputs.map (OutputRegion.shift oa.lineCount)
  /-- A block keeps the name its author gave it; any other is named by its new line. -/
  name_eq : ∀ x ∈ ob.blocks, (x.shift oa.lineCount).name =
    match x.info.name with
    | some name => name
    | none => numeral (x.startLine + oa.lineCount)
  /-- Behind content the slides are put together when the last line is blank or closes a record;
  breaks of three hyphens before any other slide take the title handed on. -/
  slides_eq : (∃ l ∈ lines a, allBlank l = false) →
    (∀ l ∈ (lines a).getLast?, allBlank l = true ∨ ∃ r ∈ oa.records, r.endLine = oa.lineCount) →
    o.slides = oa.slides ++ (Slide.carry (lines b) oa.lastTitle
      (ob.slides.filter (·.kind ≠ .implicit))).map (Slide.shift oa.lineCount)
  /-- Behind blank lines only, the slides are those of the second document. -/
  slides_eq_of_blank : (∀ l ∈ lines a, allBlank l = true) →
    o.slides = ob.slides.map fun s => if s.kind = .implicit then s else s.shift oa.lineCount

/-- The slides of documents put together behind content. -/
theorem slides_append {a b : List Line} {last last' u : Scan} {before after items : List Item}
    (ha : Reading Scan.start a last before) (hmode : last.mode = .prose none)
    (hb : Reading Scan.start b last' after) (hab : Reading Scan.start (a ++ b) u items)
    (hcontent : ∃ l ∈ a, allBlank l = false) :
    withImplicit (a ++ b) (items.filterMap Item.slide?) =
      withImplicit a (before.filterMap Item.slide?) ++
        (Slide.carry b (last.title.getD []) (after.filterMap Item.slide?)).map
          (Slide.shift a.length) := by
  have hcount : last.count = a.length := by rw [ha.count_end]; simp [Scan.start]
  have hlast : last = ⟨a.length, .prose none, last.title⟩ := by
    rw [← hcount, ← hmode]
  obtain ⟨v, more, hmore, hslides⟩ := hb.retitle last.title [] rfl
  rw [hlast] at ha
  obtain ⟨w, hw⟩ := ha.append_relocated hmore
  cases hab.run_eq.symm.trans hw.run_eq
  rw [List.nil_append] at hslides
  rw [List.filterMap_append, Item.filterMap_slide?_relocate, hslides]
  refine withImplicit_append hcontent _ fun s' hs' => ?_
  obtain ⟨s, hs, rfl⟩ := List.mem_map.mp hs'
  rw [← hslides, mem_slides_iff] at hs
  have hpos := (hmore.settled_le (Scan.anchored_none 0 last.title)).2.2.above _ hs
  simp only [Scan.start, Scan.settled_none, Item.firstLine] at hpos
  simp only [Slide.relocate]
  omega

/-- The slides of documents put together behind blank lines. -/
theorem slides_blank_append {a b : List Line} {last u : Scan} {after items : List Item}
    (ha : ∀ l ∈ a, allBlank l = true) (hb : Reading Scan.start b last after)
    (hab : Reading Scan.start (a ++ b) u items) :
    withImplicit (a ++ b) (items.filterMap Item.slide?) =
      (withImplicit b (after.filterMap Item.slide?)).map fun s =>
        if s.kind = .implicit then s else s.shift a.length := by
  have hblanks := Reading.blanks none ha 0
  rw [Nat.zero_add] at hblanks
  obtain ⟨w, hw⟩ := hblanks.append_relocated hb
  cases hab.run_eq.symm.trans hw.run_eq
  rw [List.nil_append, Item.filterMap_slide?_relocate]
  exact withImplicit_blank_append ha hb.kind_ne_implicit

section

variable {a b : Text} {oa ob : Outline}

/-- Behind whole lines that can be read, a document fails where it fails alone. -/
theorem error_of_append (hwhole : IsWhole a) (ha : Outline.parse a = .ok oa) {e : ParseError}
    (he : Outline.parse b = .error e) :
    Outline.parse (a ++ b) = .error (e.shift (lines a).length) := by
  obtain ⟨gs, hlayout, -⟩ := exists_layout ha
  rw [parse_eq_error_iff] at he ⊢
  rw [lines_append hwhole]
  exact hlayout.append_stuck (he.shift _)

/-- Documents that can be read can be put together, and so can their records. -/
theorem exists_outline_append (hwhole : IsWhole a) (ha : Outline.parse a = .ok oa)
    (hb : Outline.parse b = .ok ob) :
    ∃ o, Outline.parse (a ++ b) = .ok o ∧
      o.records = oa.records ++ ob.records.map (Record.shift (lines a).length) := by
  obtain ⟨gs, hlayout, hrecords⟩ := exists_layout ha
  obtain ⟨hs, hlayout', hrecords'⟩ := exists_layout hb
  have hboth := hlayout.append (hlayout'.shift (lines a).length)
  rw [← lines_append hwhole] at hboth
  obtain ⟨o, ho, horecords⟩ := parse_of_layout hboth
  refine ⟨o, ho, ?_⟩
  rw [horecords, Layout.records, List.map_append, ← Layout.records, ← Layout.records,
    Layout.records_shift, ← hrecords, ← hrecords']

end

/-- **Reading is compositional.**  Behind whole lines that can be read, a document fails where it
fails alone, and otherwise is read to what it is read to alone, moved by the number of lines. -/
theorem parse_append {a b : Text} {oa : Outline} (hwhole : IsWhole a)
    (ha : Outline.parse a = .ok oa) :
    (∀ e, Outline.parse (a ++ b) = .error e ↔
      ∃ e', Outline.parse b = .error e' ∧ e = e'.shift oa.lineCount) ∧
    ∀ ob, Outline.parse b = .ok ob →
      ∃ o, Outline.parse (a ++ b) = .ok o ∧ Composed a b oa ob o := by
  have herror {e'} (he : Outline.parse b = .error e') := error_of_append hwhole ha he
  have hok {ob} (hob : Outline.parse b = .ok ob) := exists_outline_append hwhole ha hob
  obtain ⟨last, before, hread, rfl⟩ := parse_eq_ok_iff.mp ha
  have hlines := lines_append hwhole b
  refine ⟨fun e => ⟨fun he => ?_, ?_⟩, fun ob hob => ?_⟩
  · cases hb : Outline.parse b with
    | ok ob =>
      obtain ⟨o, ho, -⟩ := hok hb
      rw [he] at ho
      cases ho
    | error e' =>
      have := herror hb
      rw [he] at this
      cases this
      exact ⟨e', rfl, rfl⟩
  · rintro ⟨e', he, rfl⟩
    exact herror he
  · obtain ⟨o, ho, horecords⟩ := hok hob
    obtain ⟨last', after, hread', rfl⟩ := parse_eq_ok_iff.mp hob
    obtain ⟨u, items, hboth, rfl⟩ := parse_eq_ok_iff.mp ho
    rw [hlines] at hboth
    refine ⟨_, ho, ⟨?_, horecords, ?_, ?_, ?_, ?_, ?_⟩⟩
    · simp only [hlines, List.length_append]
    · simp only [blocks] at horecords ⊢
      rw [horecords, Record.filterMap_append_shift (f := Block.shift (lines a).length)
        fun r => by cases r <;> rfl]
    · simp only [outputs] at horecords ⊢
      rw [horecords, Record.filterMap_append_shift (f := OutputRegion.shift (lines a).length)
        fun r => by cases r <;> rfl]
    · intro x _
      cases hname : x.info.name <;> simp [Block.name, Block.shift, hname]
    · intro hcontent hseam
      have hmode : last.mode = .prose none := by
        obtain ⟨l, hl, -⟩ := hcontent
        exact hread.mode_end_of_last (List.ne_nil_of_mem hl) hseam
      rw [lastTitle_eq hread, filter_withImplicit hread'.kind_ne_implicit]
      simp only [hlines]
      exact slides_append hread hmode hread' hboth hcontent
    · intro hblank
      simp only [hlines]
      exact slides_blank_append hblank hread' hboth

/-- Behind a heading, a break that takes its title over, an unnamed block, and an error. -/
theorem parse_append_repeated :
    let a := "# T\n\n".toList
    let b := "---\n~~~ x\n~~~\n# U\n---".toList
    let e := "~~~\n".toList
    let block : Block := ⟨2, 3, "~~~".toList, ⟨['x'], none, none, [], [], false, false⟩, []⟩
    let oa : Outline := ⟨2, [], [⟨1, ['T'], .heading⟩]⟩
    let ob : Outline :=
      ⟨5, [.block block], [⟨1, [], .break⟩, ⟨4, ['U'], .heading⟩, ⟨5, ['U'], .break⟩]⟩
    let o : Outline := ⟨7, [.block (block.shift 2)],
      [⟨1, ['T'], .heading⟩, ⟨3, ['T'], .break⟩, ⟨6, ['U'], .heading⟩, ⟨7, ['U'], .break⟩]⟩
    IsWhole a ∧ Outline.parse a = .ok oa ∧ Outline.parse b = .ok ob ∧
      Outline.parse (a ++ b) = .ok o ∧ Composed a b oa ob o ∧
      Outline.parse (a ++ e) = .error (.unclosed 3) := by
  intro a b e block oa ob o
  have hwhole : IsWhole a := .inr (by decide)
  have ha : Outline.parse a = .ok oa := by decide +kernel
  have hb : Outline.parse b = .ok ob := by decide +kernel
  have he : Outline.parse e = .error (.unclosed 1) := by decide +kernel
  have hab : Outline.parse (a ++ b) = .ok o := by decide +kernel
  obtain ⟨o', ho, hcomposed⟩ := (parse_append hwhole ha).2 ob hb
  rw [hab] at ho
  cases ho
  exact ⟨hwhole, ha, hb, hab, hcomposed, ((parse_append hwhole ha).1 _).mpr ⟨_, he, rfl⟩⟩

end Outline

end Literate

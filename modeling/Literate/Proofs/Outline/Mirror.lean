import Mathlib
import Literate.Proofs.Outline.Attached
import Literate.Proofs.Outline.Layout
import Literate.Proofs.Outline.Relocation

/-!
# Documents with other content in a record

What stands between the fences of a record does not matter to the rest of the document: with other
lines there, as long as none of them closes the fence, the records and slides are those of before,
at other lines.

* `Outline.Mirrors`: an outline has the records and slides of another one, at other lines.
* `Outline.Mirrors.isFenced_eq`, `Outline.Mirrors.outputAt?_eq`, `Outline.Mirrors.slideSpans`: what
  is said of a line is said of its counterpart.
* `FencedLines.refill`: a fenced range with other lines between its fences.
* `Outline.exists_refilled`: the outline of the document with that range mirrors the one of before.
* `Outline.IsRefilled.attachedOutput?_eq`: every block keeps its output.
-/

namespace Literate

open Text

/-! ## Outlines that mirror each other -/

/-- A record and its counterpart, with the lines renumbered; a block keeps its options. -/
inductive Record.Mirrors (f : ℕ → ℕ) : Record → Record → Prop
  | block {b b' : Block} (hstart : b'.startLine = f b.startLine) (hend : b'.endLine = f b.endLine)
    (hinfo : b'.info = b.info) : Mirrors f (.block b) (.block b')
  | output (q : OutputRegion) : Mirrors f (.output q) (.output (q.relocate f))

/-- An outline has the records and slides of another one.  The lines in `K` have counterparts, which
`f` names. -/
structure Outline.Mirrors (f : ℕ → ℕ) (K : ℕ → Prop) (o o' : Outline) : Prop where
  le_iff : ∀ {j k}, K j → K k → (f j ≤ f k ↔ j ≤ k)
  first : K 1 ∧ f 1 = 1
  last : K o.lineCount ∧ f o.lineCount = o'.lineCount
  records : List.Forall₂ (Record.Mirrors f) o.records o'.records
  ends : ∀ r ∈ o.records, K r.startLine ∧ K r.endLine
  slides : o'.slides = o.slides.map (Slide.relocate f)
  starts : ∀ s ∈ o.slides, K s.startLine ∧ 1 ≤ s.startLine

namespace Record.Mirrors

variable {f : ℕ → ℕ} {r r' : Record}

theorem startLine_eq (h : Mirrors f r r') : r'.startLine = f r.startLine := by
  cases h with
  | block hstart hend hinfo => exact hstart
  | output q => rfl

theorem endLine_eq (h : Mirrors f r r') : r'.endLine = f r.endLine := by
  cases h with
  | block hstart hend hinfo => exact hend
  | output q => rfl

theorem relocate (f : ℕ → ℕ) (r : Record) : Mirrors f r (r.relocate f) := by
  cases r with
  | block b => exact .block rfl rfl rfl
  | output q => exact .output q

end Record.Mirrors

theorem forall₂_any_eq {α β : Type} {R : α → β → Prop} {as : List α} {bs : List β}
    (h : List.Forall₂ R as bs) {p : α → Bool} {q : β → Bool}
    (hpq : ∀ a ∈ as, ∀ b, R a b → q b = p a) : bs.any q = as.any p := by
  induction h with
  | nil => rfl
  | cons hab _ ih =>
    rw [List.any_cons, List.any_cons, hpq _ List.mem_cons_self _ hab,
      ih fun a ha => hpq a (List.mem_cons_of_mem _ ha)]

namespace Outline.Mirrors

variable {f : ℕ → ℕ} {K : ℕ → Prop} {o o' : Outline}

theorem eq_iff (h : Mirrors f K o o') {j k : ℕ} (hj : K j) (hk : K k) : f j = f k ↔ j = k := by
  rw [le_antisymm_iff, le_antisymm_iff, h.le_iff hj hk, h.le_iff hk hj]

theorem lt_iff (h : Mirrors f K o o') {j k : ℕ} (hj : K j) (hk : K k) : f j < f k ↔ j < k := by
  rw [← not_le, ← not_le, h.le_iff hk hj]

theorem holds_eq (h : Mirrors f K o o') {r r' : Record} (hr : r ∈ o.records)
    (hrr : Record.Mirrors f r r') {k : ℕ} (hk : K k) : r'.holds (f k) = r.holds k := by
  obtain ⟨hstart, hend⟩ := h.ends r hr
  rw [Bool.eq_iff_iff, Record.holds_iff, Record.holds_iff, hrr.startLine_eq, hrr.endLine_eq,
    h.le_iff hstart hk, h.le_iff hk hend]

/-- A line is in a record when its counterpart is. -/
theorem isFenced_eq (h : Mirrors f K o o') {k : ℕ} (hk : K k) : o'.isFenced (f k) = o.isFenced k :=
  forall₂_any_eq h.records fun _ hr _ hrr => h.holds_eq hr hrr hk

theorem blocks (h : Mirrors f K o o') :
    List.Forall₂ (fun b b' => Record.Mirrors f (.block b) (.block b')) o.blocks o'.blocks := by
  have hrecords := h.records
  unfold Outline.blocks
  generalize o.records = rs at hrecords
  generalize o'.records = rs' at hrecords
  induction hrecords with
  | nil => exact .nil
  | cons hrr _ ih =>
    cases hrr with
    | block hstart hend hinfo => exact .cons (.block hstart hend hinfo) ih
    | output q => exact ih

theorem outputs_eq (h : Mirrors f K o o') :
    o'.outputs = o.outputs.map (OutputRegion.relocate f) := by
  have hrecords := h.records
  unfold Outline.outputs
  generalize o.records = rs at hrecords
  generalize o'.records = rs' at hrecords
  induction hrecords with
  | nil => rfl
  | cons hrr _ ih =>
    cases hrr with
    | block hstart hend hinfo => exact ih
    | output q => exact congrArg (q.relocate f :: ·) ih

/-- A block starts at a line when its counterpart does. -/
theorem any_startLine_eq (h : Mirrors f K o o') {k : ℕ} (hk : K k) :
    o'.blocks.any (·.startLine == f k) = o.blocks.any (·.startLine == k) := by
  refine forall₂_any_eq h.blocks fun b hb b' hbb => ?_
  have hstart := (h.ends _ (Outline.mem_blocks_iff.mp hb)).1
  rw [Bool.eq_iff_iff, beq_iff_eq, beq_iff_eq, show b'.startLine = f b.startLine from
    hbb.startLine_eq]
  exact h.eq_iff hstart hk

/-- An output region starts at a line when its counterpart does. -/
theorem outputAt?_eq (h : Mirrors f K o o') {k : ℕ} (hk : K k) :
    o'.outputAt? (f k) = (o.outputAt? k).map (OutputRegion.relocate f) := by
  rw [Outline.outputAt?, h.outputs_eq, List.find?_map, Outline.outputAt?]
  congr 1
  refine List.find?_congr fun q hq => ?_
  have hstart := (h.ends _ (Outline.mem_outputs_iff.mp hq)).1
  rw [Bool.eq_iff_iff, Function.comp_apply, beq_iff_eq, beq_iff_eq]
  exact h.eq_iff hstart hk

theorem relocate_eq_iff (h : Mirrors f K o o') {q q' : OutputRegion} (hq : q ∈ o.outputs)
    (hq' : q' ∈ o.outputs) : q.relocate f = q'.relocate f ↔ q = q' := by
  refine ⟨fun heq => ?_, fun heq => heq ▸ rfl⟩
  obtain ⟨hstart, hend⟩ := h.ends _ (Outline.mem_outputs_iff.mp hq)
  obtain ⟨hstart', hend'⟩ := h.ends _ (Outline.mem_outputs_iff.mp hq')
  rw [OutputRegion.relocate, OutputRegion.relocate, OutputRegion.mk.injEq] at heq
  have hfirst : q.startLine = q'.startLine := (h.eq_iff hstart hstart').mp heq.1
  have hlast : q.endLine = q'.endLine := (h.eq_iff hend hend').mp heq.2
  cases q
  cases q'
  simp_all

/-! ### Spans -/

/-- A span and its counterpart. -/
def SpanMirrors (f : ℕ → ℕ) (K : ℕ → Prop) (s s' : Span) : Prop :=
  ∀ k, K k → (s'.first ≤ f k ↔ s.first ≤ k) ∧ (f k ≤ s'.last ↔ k ≤ s.last)

theorem spansFrom (h : Mirrors f K o o') {slides : List Slide}
    (hslides : ∀ s ∈ slides, K s.startLine ∧ 1 ≤ s.startLine) {first : ℕ} (hfirst : K first) :
    List.Forall₂ (SpanMirrors f K) (Outline.spansFrom o.lineCount first slides)
      (Outline.spansFrom o'.lineCount (f first) (slides.map (Slide.relocate f))) := by
  induction slides generalizing first with
  | nil =>
    refine .cons (fun k hk => ⟨h.le_iff hfirst hk, ?_⟩) .nil
    rw [← h.last.2]
    exact h.le_iff hk h.last.1
  | cons s slides ih =>
    obtain ⟨hs, hpos⟩ := hslides s List.mem_cons_self
    refine .cons (fun k hk => ⟨h.le_iff hfirst hk, ?_⟩)
      (ih (fun s hs => hslides s (List.mem_cons_of_mem _ hs)) hs)
    -- a slide ends before the next one starts
    have hpos' : 1 ≤ f s.startLine := by
      have := (h.le_iff h.first.1 hs).mpr hpos
      rwa [h.first.2] at this
    have hlt := h.lt_iff hk hs
    simp only [Slide.relocate]
    omega

theorem slideSpans (h : Mirrors f K o o') :
    List.Forall₂ (SpanMirrors f K) o.slideSpans o'.slideSpans := by
  rw [Outline.slideSpans, Outline.slideSpans, h.slides]
  have hstarts := h.starts
  cases hslides : o.slides with
  | nil => exact .nil
  | cons s slides =>
    rw [hslides] at hstarts
    have htail : ∀ s ∈ slides, K s.startLine ∧ 1 ≤ s.startLine :=
      fun s hs => hstarts s (List.mem_cons_of_mem _ hs)
    have hspans := h.spansFrom htail h.first.1
    rwa [h.first.2] at hspans

end Outline.Mirrors

/-! ## Other lines between the fences -/

/-- The range with other lines between its fences. -/
def FencedLines.refill (g : FencedLines) (inner : List Line)
    (h : ∀ l ∈ inner, g.fence.KeepsOpen l) : FencedLines := { g with inner, keepsOpen := h }

/-- Whether a line keeps its place when what stands between the fences of a range of `h` lines after
line `n` is exchanged: it does unless it is there. -/
def Stays (n h k : ℕ) : Prop := k ≤ n + 1 ∨ n + h ≤ k

/-- Where line `k` is when a range of `h` lines after line `n` has `h'` lines. -/
def refilled (n h h' k : ℕ) : ℕ := if k ≤ n + 1 then k else k + h' - h

theorem refilled_of_le {n h h' k : ℕ} (hk : k ≤ n + 1) : refilled n h h' k = k := if_pos hk

theorem refilled_of_lt {n h h' k : ℕ} (hk : n + 1 < k) : refilled n h h' k = k + h' - h :=
  if_neg (by omega)

theorem refilled_le_iff {n h h' j k : ℕ} (hh : 2 ≤ h) (hh' : 2 ≤ h') (hj : Stays n h j)
    (hk : Stays n h k) : refilled n h h' j ≤ refilled n h h' k ↔ j ≤ k := by
  unfold refilled
  unfold Stays at hj hk
  split_ifs <;> omega

namespace FencedLines

variable {g : FencedLines} {inner : List Line} {h : ∀ l ∈ inner, g.fence.KeepsOpen l}

theorem two_le_height (g : FencedLines) : 2 ≤ g.height := by
  rw [height]
  omega

/-- A line that has no counterpart is in the record of the range. -/
theorem stays_of_holds_eq_false {n k : ℕ} (hn : (g.record n).holds k = false) :
    Stays n g.height k := by
  have hout : ¬(n + 1 ≤ k ∧ k ≤ n + g.height) := by
    rw [← g.startLine_record n, ← g.endLine_record n, ← Record.holds_iff, hn]
    exact Bool.false_ne_true
  unfold Stays
  omega

/-- The record of the range has the options it had. -/
theorem mirrors_refill (n : ℕ) :
    Record.Mirrors (refilled n g.height (g.refill inner h).height) (g.record n)
      ((g.refill inner h).record n) := by
  have hstart : n + 1 = refilled n g.height (g.refill inner h).height (n + 1) :=
    (refilled_of_le le_rfl).symm
  have hend : n + (g.refill inner h).height =
      refilled n g.height (g.refill inner h).height (n + g.height) := by
    have := g.two_le_height
    rw [refilled_of_lt (by omega)]
    omega
  rw [record, record, show (g.refill inner h).fence = g.fence from rfl, Scan.recordOf,
    Scan.recordOf]
  split_ifs
  · nth_rewrite 2 [hstart]
    rw [hend]
    exact .output _
  · exact .block hstart hend rfl

end FencedLines

/-- Records that only move mirror those of before. -/
theorem forall₂_mirrors_relocate (f : ℕ → ℕ) (items : List Item) :
    List.Forall₂ (Record.Mirrors f) (items.filterMap Item.record?)
      ((items.map (Item.relocate f)).filterMap Item.record?) := by
  rw [Item.filterMap_record?_relocate, List.forall₂_map_right_iff, List.forall₂_same]
  exact fun r _ => Record.Mirrors.relocate f r

namespace Outline

/-- The outline of a document whose lines are read to the given items. -/
def ofItems (ls : List Line) (items : List Item) : Outline :=
  ⟨ls.length, items.filterMap Item.record?, withImplicit ls (items.filterMap Item.slide?)⟩

/-- A document in which one range has other lines between its fences: what stands before the range
is read to `before`, and what stands behind it to `after`. -/
structure AroundRange (pre : List Line) (g : FencedLines) (post : List Line)
    (before after : List Item) : Prop where
  above : Item.Ordered 0 pre.length before
  below : Item.Ordered (pre.length + g.height) (pre.length + g.height + post.length) after

namespace AroundRange

variable {pre post : List Line} {g : FencedLines} {before after : List Item} {inner : List Line}
  {hinner : ∀ l ∈ inner, g.fence.KeepsOpen l}

/-- The items of the document with the other lines. -/
theorem relocate_items (h : AroundRange pre g post before after) (r : Record) (h' : ℕ) :
    before ++ [Item.record r] ++
        after.map (Item.relocate fun k => k + (pre.length + h') - (pre.length + g.height)) =
      before.map (Item.relocate (refilled pre.length g.height h')) ++
        Item.record r :: after.map (Item.relocate (refilled pre.length g.height h')) := by
  have hheight := g.two_le_height
  rw [Item.map_relocate_eq_self h.above fun k hk => refilled_of_le (by omega), List.append_assoc,
    List.singleton_append, Item.map_relocate_congr h.below fun k hk => ?_]
  rw [refilled_of_lt (by omega)]
  omega

theorem stays_of_mem (h : AroundRange pre g post before after) {i : Item}
    (hi : i ∈ before ∨ i ∈ after) :
    Stays pre.length g.height i.firstLine ∧ Stays pre.length g.height i.lastLine ∧
      1 ≤ i.firstLine := by
  rcases hi with hi | hi
  · have h1 := h.above.above i hi
    have h2 := h.above.proper i hi
    have h3 := h.above.below i hi
    exact ⟨.inl (by omega), .inl (by omega), h1⟩
  · have h1 := h.below.above i hi
    have h2 := h.below.proper i hi
    exact ⟨.inr (by omega), .inr (by omega), by omega⟩

/-- The first line with content, which is in front of the range or is its opening fence. -/
theorem exists_firstContent? (pre : List Line) (g : FencedLines) (post : List Line) :
    ∃ first ≤ pre.length + 1, ∀ g₁ : FencedLines, g₁.opener = g.opener →
      firstContent? (pre ++ g₁.lines ++ post) = some first := by
  have hcontent : ∃ l ∈ pre ++ [g.opener], allBlank l = false :=
    ⟨g.opener, by simp, Fence.allBlank_eq_false_of_ofLine? g.opens⟩
  obtain ⟨first, -, hle, hfirst⟩ := firstContent?_append hcontent
  rw [List.length_append, List.length_singleton] at hle
  refine ⟨first, hle, fun g₁ hg₁ => ?_⟩
  rw [← hfirst (g₁.inner ++ [g₁.closer] ++ post), ← hg₁]
  simp [FencedLines.lines]

/-- The slides move with their lines, the implicit one included. -/
theorem slides_eq (h : AroundRange pre g post before after) {f : ℕ → ℕ}
    (hf : f = refilled pre.length g.height (g.refill inner hinner).height) (r r' : Record) :
    withImplicit (pre ++ (g.refill inner hinner).lines ++ post)
        ((before.map (Item.relocate f) ++
          Item.record r' :: after.map (Item.relocate f)).filterMap Item.slide?) =
      (withImplicit (pre ++ g.lines ++ post)
        ((before ++ Item.record r :: after).filterMap Item.slide?)).map (Slide.relocate f) := by
  have hheight := g.two_le_height
  have hheight' := (g.refill inner hinner).two_le_height
  obtain ⟨first, hle, hfirst⟩ := exists_firstContent? pre g post
  have hslides : (before.map (Item.relocate f) ++
      Item.record r' :: after.map (Item.relocate f)).filterMap Item.slide? =
      ((before ++ Item.record r :: after).filterMap Item.slide?).map (Slide.relocate f) := by
    rw [List.filterMap_append, List.filterMap_append, List.filterMap_cons_none rfl,
      List.filterMap_cons_none rfl, Item.filterMap_slide?_relocate, Item.filterMap_slide?_relocate,
      List.map_append]
  rw [hslides]
  refine withImplicit_relocate (hfirst g rfl) (hfirst (g.refill inner hinner) rfl) ?_ fun s hs => ?_
  · rw [hf, refilled_of_le (by omega)]
  · have hmem : Item.slide s ∈ before ∨ Item.slide s ∈ after := by simpa using mem_slides_iff.mp hs
    have hstays : Stays pre.length g.height s.startLine := (h.stays_of_mem hmem).1
    unfold Stays at hstays
    rw [hf, refilled]
    split_ifs <;> omega

/-- Records start and end at lines that have counterparts. -/
theorem ends (h : AroundRange pre g post before after) {r : Record}
    (hr : Item.record r ∈ before ++ Item.record (g.record pre.length) :: after) :
    Stays pre.length g.height r.startLine ∧ Stays pre.length g.height r.endLine := by
  have hmem : Item.record r ∈ before ∨ r = g.record pre.length ∨ Item.record r ∈ after := by
    simpa using hr
  rcases hmem with hmem | rfl | hmem
  · have hstays := h.stays_of_mem (.inl hmem)
    exact ⟨hstays.1, hstays.2.1⟩
  · rw [FencedLines.startLine_record, FencedLines.endLine_record]
    exact ⟨.inl le_rfl, .inr le_rfl⟩
  · have hstays := h.stays_of_mem (.inr hmem)
    exact ⟨hstays.1, hstays.2.1⟩

/-- A record ends in front of the range, or not before its end. -/
theorem record_cases (h : AroundRange pre g post before after) {r : Record}
    (hr : Item.record r ∈ before ++ Item.record (g.record pre.length) :: after) :
    Item.record r ∈ before ∧ r.endLine ≤ pre.length ∨ pre.length + g.height ≤ r.endLine := by
  have hmem : Item.record r ∈ before ∨ r = g.record pre.length ∨ Item.record r ∈ after := by
    simpa using hr
  rcases hmem with hmem | rfl | hmem
  · exact .inl ⟨hmem, h.above.below _ hmem⟩
  · rw [FencedLines.endLine_record]
    exact .inr le_rfl
  · have h1 := h.below.above _ hmem
    have h2 := h.below.proper _ hmem
    simp only [Item.lastLine] at h2
    exact .inr (by omega)

/-- What stands in front of the range stays where it is. -/
theorem before_relocate (h : AroundRange pre g post before after) {f : ℕ → ℕ}
    (hf : f = refilled pre.length g.height (g.refill inner hinner).height) {r : Record}
    (hr : Item.record r ∈ before) :
    Item.record r ∈ before.map (Item.relocate f) ∧ Record.Mirrors f r r := by
  have hsame : before.map (Item.relocate f) = before :=
    Item.map_relocate_eq_self h.above fun k hk => by rw [hf, refilled_of_le (by omega)]
  have hself := List.map_inj_left.mp (hsame.trans (List.map_id _).symm) _ hr
  have hmirrors := Record.Mirrors.relocate f r
  rw [Item.record.inj hself] at hmirrors
  rw [hsame]
  exact ⟨hr, hmirrors⟩

/-- Slides start at lines that have counterparts. -/
theorem starts (h : AroundRange pre g post before after) {r : Record} {ls : List Line} {s : Slide}
    (hs : s ∈ (ofItems ls (before ++ Item.record r :: after)).slides) :
    Stays pre.length g.height s.startLine ∧ 1 ≤ s.startLine := by
  have hmem : ∀ s ∈ (before ++ Item.record r :: after).filterMap Item.slide?,
      Stays pre.length g.height s.startLine ∧ 1 ≤ s.startLine := by
    intro s hs
    have hs' : Item.slide s ∈ before ∨ Item.slide s ∈ after := by simpa using mem_slides_iff.mp hs
    have hstays := h.stays_of_mem hs'
    exact ⟨hstays.1, hstays.2.2⟩
  have hs : s ∈ withImplicit ls ((before ++ Item.record r :: after).filterMap Item.slide?) := hs
  rcases withImplicit_cases ls ((before ++ Item.record r :: after).filterMap Item.slide?) with
    heq | ⟨heq, -⟩
  · exact hmem s (heq ▸ hs)
  · rw [heq] at hs
    rcases List.mem_cons.mp hs with rfl | hs
    · exact ⟨.inl (by simp), le_rfl⟩
    · exact hmem s hs

/-- The outline of the document with the other lines mirrors the one of before. -/
theorem mirrors (h : AroundRange pre g post before after) {f : ℕ → ℕ}
    (hf : f = refilled pre.length g.height (g.refill inner hinner).height) :
    Mirrors f (Stays pre.length g.height)
      (ofItems (pre ++ g.lines ++ post) (before ++ Item.record (g.record pre.length) :: after))
      (ofItems (pre ++ (g.refill inner hinner).lines ++ post)
        (before.map (Item.relocate f) ++ Item.record ((g.refill inner hinner).record pre.length) ::
          after.map (Item.relocate f))) where
  le_iff hj hk := by
    rw [hf]
    exact refilled_le_iff g.two_le_height (g.refill inner hinner).two_le_height hj hk
  first := ⟨.inl (by omega), by rw [hf, refilled_of_le (by omega)]⟩
  last := by
    have hheight := g.two_le_height
    simp only [ofItems, List.length_append, FencedLines.length_lines, hf]
    refine ⟨.inr (by omega), ?_⟩
    rw [refilled_of_lt (by omega)]
    omega
  records := by
    simp only [ofItems, List.filterMap_append]
    refine List.rel_append (forall₂_mirrors_relocate f before) (.cons ?_ ?_)
    · rw [hf]
      exact g.mirrors_refill pre.length
    · exact forall₂_mirrors_relocate f after
  ends r hr := h.ends (mem_records_iff.mp hr)
  slides := h.slides_eq hf _ _
  starts s hs := h.starts hs

end AroundRange

/-- The documents with the outlines `o` and `o'` differ in what stands between the fences of the
range behind `pre`: in the first it is `g`, in the second `g'`. -/
structure IsRefilled (pre : List Line) (g g' : FencedLines) (post : List Line) (o o' : Outline) :
    Prop where
  opener_eq : g'.opener = g.opener
  closer_eq : g'.closer = g.closer
  parsed : ofLines (pre ++ g.lines ++ post) = .ok o
  parsed' : ofLines (pre ++ g'.lines ++ post) = .ok o'
  mem : g.record pre.length ∈ o.records
  mem' : g'.record pre.length ∈ o'.records
  mirrors : Mirrors (refilled pre.length g.height g'.height) (Stays pre.length g.height) o o'
  record_mirrors : Record.Mirrors (refilled pre.length g.height g'.height) (g.record pre.length)
    (g'.record pre.length)
  ends : ∀ q ∈ o.records, q.endLine ≤ pre.length ∨ pre.length + g.height ≤ q.endLine
  /-- What stands before the range stays where it is. -/
  before : ∀ q ∈ o.records, q.endLine ≤ pre.length →
    q ∈ o'.records ∧ Record.Mirrors (refilled pre.length g.height g'.height) q q

variable {ls : List Line} {o : Outline}

/-- **Other lines between the fences** of a record: the document is read to the same outline at
other lines. -/
theorem exists_refilled (ho : ofLines ls = .ok o) {r : Record} (hr : r ∈ o.records) :
    ∃ pre g post, ls = pre ++ FencedLines.lines g ++ post ∧ r = g.record pre.length ∧
      ∀ inner, ∀ hinner : ∀ l ∈ inner, g.fence.KeepsOpen l,
        ∃ o', IsRefilled pre g (g.refill inner hinner) post o o' := by
  obtain ⟨last, items, hread, heq⟩ := ofLines_eq_ok_iff.mp ho
  rw [heq] at hr
  obtain ⟨pre, g, post, mid, before, after, rfl, hpre, rfl, hpost, rfl⟩ :=
    hread.record_inv (mem_records_iff.mp hr)
  have hcount : mid.count = pre.length := by rw [hpre.count_end]; simp [Scan.start]
  obtain ⟨open?, hmid⟩ := hpre.mode_end
  have hall := hread.ordered
  rw [hcount] at hpost hr hall heq ⊢
  have hafter := (hpost.settled_le (Scan.anchored_none _ _)).2.2
  rw [Scan.settled_none] at hafter
  have haround : AroundRange pre g post before after := by
    refine ⟨hpre.ordered, hafter.above, hafter.proper, fun i hi => ?_, hafter.pairwise⟩
    have := hall.below i (by simp [hi])
    simp only [List.length_append, FencedLines.length_lines] at this
    omega
  refine ⟨pre, g, post, rfl, rfl, fun inner hinner => ?_⟩
  have hrange := Reading.single hmid (g.refill inner hinner)
  rw [hcount] at hrange
  obtain ⟨last', hback⟩ := hpost.relocate_none (pre.length + (g.refill inner hinner).height)
  have hnew := (hpre.append hrange).append hback
  rw [haround.relocate_items] at hnew
  have hcases : ∀ q ∈ o.records, Item.record q ∈ before ∧ q.endLine ≤ pre.length ∨
      pre.length + g.height ≤ q.endLine := by
    intro q hq
    rw [heq] at hq
    exact haround.record_cases (mem_records_iff.mp hq)
  refine ⟨_, rfl, rfl, ho, ofLines_eq_ok_iff.mpr ⟨last', _, hnew, rfl⟩, heq ▸ hr, ?_,
    heq ▸ haround.mirrors rfl, g.mirrors_refill _, fun q hq => (hcases q hq).imp_left And.right,
    fun q hq hle => ?_⟩
  · exact mem_records_iff.mpr (by simp)
  · have hbefore := (hcases q hq).resolve_right (by have := g.two_le_height; omega)
    obtain ⟨hmem, hmirrors⟩ := haround.before_relocate rfl hbefore.1
    exact ⟨mem_records_iff.mpr (List.mem_append_left _ hmem), hmirrors⟩

namespace IsRefilled

variable {pre post : List Line} {g g' : FencedLines} {o' : Outline}

/-- The search for content behind a line ends at a line and at its counterpart. -/
theorem exists_skipBlanks (h : IsRefilled pre g g' post o o') {k : ℕ}
    (hk : k ≤ pre.length ∨ pre.length + g.height ≤ k) :
    ∃ m, Stays pre.length g.height m ∧
      skipBlanks (k + 1) ((pre ++ g.lines ++ post).drop k) = m ∧
      skipBlanks (refilled pre.length g.height g'.height k + 1)
        ((pre ++ g'.lines ++ post).drop (refilled pre.length g.height g'.height k)) =
          refilled pre.length g.height g'.height m := by
  have hheight := g.two_le_height
  rcases hk with hk | hk
  · -- the opening fence stops the search
    have hopener : allBlank g.opener = false := Fence.allBlank_eq_false_of_ofLine? g.opens
    have hcontent : ∃ l ∈ (pre ++ [g.opener]).drop k, allBlank l = false := by
      refine ⟨g.opener, ?_, hopener⟩
      rw [List.drop_append_of_le_length hk]
      simp
    have hsplit : ∀ g₁ : FencedLines, g₁.opener = g.opener → (pre ++ g₁.lines ++ post).drop k =
        (pre ++ [g.opener]).drop k ++ (g₁.inner ++ [g₁.closer] ++ post) := by
      intro g₁ hg₁
      rw [← List.drop_append_of_le_length (by simp; omega), FencedLines.lines, hg₁]
      simp
    have hskip := skipBlanks_append_of_exists hcontent (k + 1)
    have hlt := (hskip []).2
    simp only [List.length_drop, List.length_append, List.length_singleton] at hlt
    refine ⟨skipBlanks (k + 1) ((pre ++ [g.opener]).drop k), .inl (by omega), ?_, ?_⟩
    · rw [hsplit g rfl, (hskip _).1]
    · rw [refilled_of_le (by omega), hsplit g' h.opener_eq, (hskip _).1,
        refilled_of_le (by omega)]
  · obtain ⟨j, rfl⟩ := Nat.exists_eq_add_of_le hk
    have hdrop : ∀ g₁ : FencedLines,
        (pre ++ g₁.lines ++ post).drop (pre.length + g₁.height + j) = post.drop j := by
      intro g₁
      rw [← List.drop_drop, List.drop_left' (by simp)]
    have hmove : refilled pre.length g.height g'.height (pre.length + g.height + j) =
        pre.length + g'.height + j := by
      rw [refilled_of_lt (by omega)]
      omega
    refine ⟨skipBlanks (pre.length + g.height + j + 1) (post.drop j), .inr ?_, ?_, ?_⟩
    · rw [skipBlanks_eq]
      omega
    · rw [hdrop]
    · rw [hmove, hdrop, skipBlanks_eq, skipBlanks_eq, refilled_of_lt (by omega)]
      omega

/-- A block keeps its output. -/
theorem attachedOutput?_eq (h : IsRefilled pre g g' post o o') {b b' : Block} (hb : b ∈ o.blocks)
    (hbb : Record.Mirrors (refilled pre.length g.height g'.height) (.block b) (.block b')) :
    o'.attachedOutput? (pre ++ g'.lines ++ post) b' =
      (o.attachedOutput? (pre ++ g.lines ++ post) b).map
        (OutputRegion.relocate (refilled pre.length g.height g'.height)) := by
  obtain ⟨m, hm, hskip, hskip'⟩ := h.exists_skipBlanks (k := b.endLine)
    (h.ends _ (mem_blocks_iff.mp hb))
  have hend : b'.endLine = refilled pre.length g.height g'.height b.endLine := hbb.endLine_eq
  rw [attachedOutput?, attachedOutput?, hend, hskip, hskip']
  exact h.mirrors.outputAt?_eq hm

end IsRefilled

end Outline

end Literate

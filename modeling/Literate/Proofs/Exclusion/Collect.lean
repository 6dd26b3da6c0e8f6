import Mathlib
import Literate.Proofs.Exclusion.Dropped
import Literate.Proofs.Exclusion.KeptLine

/-!
# Collecting the lines that stay

What stays of a document has a layout again.  Lines outside fences stay there; a record that stays
keeps all its lines, because nothing is dropped within it and so no blank line of it can go either.

* `Exclusion.collect_sublist`: numbers of kept lines come in the order of the document.
* `Exclusion.clean_unfenced`, `Exclusion.clean_fenced`: what a line that stays looks like.
* `Exclusion.IsImage`: what a range that stays becomes.
* `Exclusion.collect_layout`: the layout of what stays.
-/

namespace Literate

open Text

namespace Entry

theorem numbered_append (n : ℕ) (ls ms : List Line) :
    numbered n (ls ++ ms) = numbered n ls ++ numbered (n + ls.length) ms := by
  induction ls generalizing n with
  | nil => rfl
  | cons l ls ih =>
    rw [List.cons_append, numbered, ih, numbered, List.length_cons, List.cons_append,
      show n + 1 + ls.length = n + (ls.length + 1) by omega]

theorem length_numbered (n : ℕ) (ls : List Line) : (numbered n ls).length = ls.length := by
  induction ls generalizing n with
  | nil => rfl
  | cons l ls ih => rw [numbered, List.length_cons, ih, List.length_cons]

theorem map_text_numbered (n : ℕ) (ls : List Line) : (numbered n ls).map text = ls := by
  induction ls generalizing n with
  | nil => rfl
  | cons l ls ih => rw [numbered, List.map_cons, ih]

theorem map_number_numbered (n : ℕ) (ls : List Line) :
    (numbered n ls).map number = List.range' n ls.length := by
  induction ls generalizing n with
  | nil => rfl
  | cons l ls ih => rw [numbered, List.map_cons, ih, List.length_cons, List.range'_succ]

theorem mem_numbered_iff {n : ℕ} {ls : List Line} {e : Entry} :
    e ∈ numbered n ls ↔ n ≤ e.number ∧ ls[e.number - n]? = some e.text := by
  induction ls generalizing n with
  | nil => simp [numbered]
  | cons l ls ih =>
    rw [numbered, List.mem_cons, ih]
    constructor
    · rintro (rfl | ⟨h1, h2⟩)
      · simp
      · refine ⟨by omega, ?_⟩
        rw [show e.number - n = e.number - (n + 1) + 1 by omega, List.getElem?_cons_succ, h2]
    · rintro ⟨h1, h2⟩
      by_cases hn : e.number = n
      · left
        rw [hn, Nat.sub_self, List.getElem?_cons_zero, Option.some.injEq] at h2
        rw [h2, ← hn]
      · right
        refine ⟨by omega, ?_⟩
        rwa [show e.number - n = e.number - (n + 1) + 1 by omega, List.getElem?_cons_succ] at h2

end Entry

namespace Exclusion

/-! ## Collecting -/

section

variable {isDropped : Entry → Bool} {cleaned : Entry → Line}

/-- The kept lines are lines of the document in its order, cleaned. -/
theorem collect_sublist (gap afterBlank : Bool) (es : List Entry) :
    (collect isDropped cleaned gap afterBlank es).Sublist
      (es.map fun e => ⟨e.number, cleaned e⟩) := by
  induction es generalizing gap afterBlank with
  | nil => exact .slnil
  | cons e es ih =>
    rw [collect, List.map_cons]
    dsimp only
    split_ifs
    · exact (ih _ _).cons _
    · exact (ih _ _).cons _
    · exact (ih _ _).cons_cons _

/-- What is kept is a line that is not dropped, cleaned. -/
theorem exists_of_mem_collect {es : List Entry} {e : Entry} {gap afterBlank : Bool}
    (h : e ∈ collect isDropped cleaned gap afterBlank es) :
    ∃ f ∈ es, isDropped f = false ∧ e = ⟨f.number, cleaned f⟩ := by
  induction es generalizing gap afterBlank with
  | nil => cases h
  | cons f es ih =>
    have hrest : ∀ {gap afterBlank}, e ∈ collect isDropped cleaned gap afterBlank es →
        ∃ g ∈ f :: es, isDropped g = false ∧ e = ⟨g.number, cleaned g⟩ := by
      intro gap afterBlank h
      obtain ⟨g, hg, hkept⟩ := ih h
      exact ⟨g, List.mem_cons_of_mem f hg, hkept⟩
    rw [collect] at h
    dsimp only at h
    split_ifs at h with hdropped
    · exact hrest h
    · exact hrest h
    · rcases List.mem_cons.mp h with rfl | h
      · exact ⟨f, by simp, by simpa using hdropped, rfl⟩
      · exact hrest h

/-- A line that is not dropped stays, unless nothing is left of it. -/
theorem mem_collect {es : List Entry} {e : Entry} (he : e ∈ es) (h : isDropped e = false)
    (hb : allBlank (cleaned e) = false) (gap afterBlank : Bool) :
    ⟨e.number, cleaned e⟩ ∈ collect isDropped cleaned gap afterBlank es := by
  induction es generalizing gap afterBlank with
  | nil => cases he
  | cons f es ih =>
    rcases List.mem_cons.mp he with rfl | he
    · simp [collect, h, hb]
    · rw [collect]
      dsimp only
      split_ifs
      · exact ih he _ _
      · exact ih he _ _
      · exact List.mem_cons_of_mem _ (ih he _ _)

theorem collect_append_dropped {es : List Entry} (hne : es ≠ [])
    (h : ∀ e ∈ es, isDropped e = true) (gap afterBlank : Bool) (rest : List Entry) :
    collect isDropped cleaned gap afterBlank (es ++ rest) =
      collect isDropped cleaned true afterBlank rest := by
  induction es generalizing gap with
  | nil => exact absurd rfl hne
  | cons e es ih =>
    rw [List.cons_append, collect, if_pos (h e (by simp))]
    cases es with
    | nil => rfl
    | cons f es => exact ih (by simp) (fun e he => h e (by simp [he])) true

/-- Where nothing is dropped and cleaning changes nothing, everything stays. -/
theorem collect_append_kept {es : List Entry} (h : ∀ e ∈ es, isDropped e = false)
    (hclean : ∀ e ∈ es, cleaned e = e.text) (afterBlank : Bool) (rest : List Entry) :
    ∃ afterBlank', collect isDropped cleaned false afterBlank (es ++ rest) =
      es ++ collect isDropped cleaned false afterBlank' rest := by
  induction es generalizing afterBlank with
  | nil => exact ⟨afterBlank, rfl⟩
  | cons e es ih =>
    obtain ⟨after, hrest⟩ := ih (fun f hf => h f (by simp [hf]))
      (fun f hf => hclean f (by simp [hf])) (allBlank e.text)
    refine ⟨after, ?_⟩
    rw [List.cons_append, collect, if_neg (by simp [h e (by simp)]), hclean e (by simp)]
    dsimp only
    rw [Bool.false_and, Bool.false_and, if_neg Bool.false_ne_true, hrest]
    rfl

theorem collect_eq_self {es : List Entry} (h : ∀ e ∈ es, isDropped e = false)
    (hclean : ∀ e ∈ es, cleaned e = e.text) (afterBlank : Bool) :
    collect isDropped cleaned false afterBlank es = es := by
  obtain ⟨after, hall⟩ := collect_append_kept h hclean afterBlank []
  rwa [List.append_nil, collect, List.append_nil] at hall

/-- A line that is not blank stays unless it is dropped. -/
theorem collect_cons_kept {e : Entry} (h : isDropped e = false) (hb : allBlank (cleaned e) = false)
    (gap afterBlank : Bool) (rest : List Entry) :
    collect isDropped cleaned gap afterBlank (e :: rest) =
      ⟨e.number, cleaned e⟩ :: collect isDropped cleaned false false rest := by
  simp [collect, h, hb]

end

/-! ## Cleaning -/

/-- A line outside fences that no second pass touches. -/
def IsClean (l : Line) : Prop :=
  Prose.isStructural l = true ∨ allBlank l = true ∨ Marker.find l = []

variable {o : Outline}

theorem isFenced_of_block {b : Block} (hb : b ∈ o.blocks) (hproper : b.startLine ≤ b.endLine) :
    o.isFenced b.startLine = true :=
  List.any_eq_true.mpr
    ⟨.block b, Outline.mem_blocks_iff.mp hb, Record.holds_iff.mpr ⟨le_rfl, hproper⟩⟩

/-- Outside fences only prose loses its markers. -/
theorem clean_of_isFenced_eq_false {e : Entry} (hn : o.isFenced e.number = false)
    (hproper : ∀ b ∈ o.blocks, b.startLine ≤ b.endLine) :
    clean o e = if Prose.isProse o e then Marker.strip e.text else e.text := by
  have hblock : o.blocks.any (·.startLine == e.number) = false := by
    rw [List.any_eq_false]
    intro b hb hbn
    rw [beq_iff_eq] at hbn
    have := isFenced_of_block hb (hproper b hb)
    rw [hbn, hn] at this
    cases this
  rw [clean, hblock, if_neg Bool.false_ne_true]

/-- A line outside fences stays outside and has no markers any more. -/
theorem clean_unfenced {e : Entry} (hn : o.isFenced e.number = false)
    (hproper : ∀ b ∈ o.blocks, b.startLine ≤ b.endLine) (hl : Fence.ofLine? e.text = none) :
    Fence.ofLine? (clean o e) = none ∧ IsClean (clean o e) ∧ clean o e <+: e.text := by
  rw [clean_of_isFenced_eq_false hn hproper]
  cases hp : Prose.isProse o e with
  | true =>
    rw [if_pos rfl]
    exact ⟨Marker.ofLine?_strip hl, .inr (.inr (Marker.find_strip _)), Marker.strip_isPrefix _⟩
  | false =>
    rw [if_neg Bool.false_ne_true]
    refine ⟨hl, ?_, List.prefix_rfl⟩
    simp only [Prose.isProse, hn, Bool.false_or, Bool.not_eq_false', Bool.or_eq_true] at hp
    rcases hp with hb | hs
    · exact .inr (.inl hb)
    · exact .inl hs

/-- Of a record only the opening fence of a block loses its markers. -/
theorem clean_fenced (hapart : o.Apart) (hproper : ∀ b ∈ o.blocks, b.startLine ≤ b.endLine)
    {r : Record} (hr : r ∈ o.records) {e : Entry} (hn : r.holds e.number = true) :
    clean o e = if r.block?.isSome && e.number == r.startLine then cleanOpener e.text
      else e.text := by
  have hfenced : o.isFenced e.number = true := List.any_eq_true.mpr ⟨r, hr, hn⟩
  have hprose : Prose.isProse o e = false := by simp [Prose.isProse, hfenced]
  have hstart : o.blocks.any (·.startLine == e.number) =
      (r.block?.isSome && e.number == r.startLine) := by
    rw [Bool.eq_iff_iff, List.any_eq_true, Bool.and_eq_true]
    constructor
    · rintro ⟨b, hb, hbn⟩
      rw [beq_iff_eq] at hbn
      have hold : (Record.block b).holds e.number = true := by
        rw [Record.holds_iff, ← hbn]
        exact ⟨le_rfl, hproper b hb⟩
      obtain rfl := hapart r hr _ (Outline.mem_blocks_iff.mp hb) _ hn hold
      exact ⟨rfl, by simp [Record.startLine, hbn]⟩
    · rintro ⟨hsome, hrn⟩
      cases r with
      | block b =>
        rw [beq_iff_eq] at hrn
        exact ⟨b, Outline.mem_blocks_iff.mpr hr, beq_iff_eq.mpr hrn.symm⟩
      | output _ => cases hsome
  rw [clean, hprose, if_neg (by simp), hstart]

/-! ## Fenced ranges that stay -/

/-- The opening fence of a range as it stays. -/
def keptOpener (p : ℕ × FencedLines) : Line :=
  if (p.2.record p.1).block?.isSome then cleanOpener p.2.opener else p.2.opener

/-- An output region has no markers to lose. -/
theorem keptOpener_eq (p : ℕ × FencedLines) : keptOpener p = cleanOpener p.2.opener := by
  by_cases hinfo : p.2.fence.info = outputInfo
  · have hfind : Marker.find p.2.fence.rest = [] := by
      rw [← Marker.find_trim, show trim p.2.fence.rest = outputInfo from hinfo]
      decide +kernel
    rw [keptOpener, cleanOpener_of_find_eq_nil p.2.opens hfind, ite_self]
  · rw [keptOpener, FencedLines.record, Scan.recordOf, if_neg hinfo]
    rfl

theorem allBlank_keptOpener (p : ℕ × FencedLines) : allBlank (keptOpener p) = false := by
  obtain ⟨-, _, hopens, -⟩ := ofLine?_cleanOpener p.2.opens
  rw [keptOpener_eq]
  exact Fence.allBlank_eq_false_of_ofLine? hopens

theorem holds_of_mem_numbered {p : ℕ × FencedLines} {e : Entry}
    (he : e ∈ Entry.numbered (p.1 + 1) p.2.lines) : (p.2.record p.1).holds e.number = true := by
  obtain ⟨h1, h2⟩ := Entry.mem_numbered_iff.mp he
  have := (List.getElem?_eq_some_iff.mp h2).1
  rw [FencedLines.length_lines] at this
  rw [Record.holds_iff, FencedLines.startLine_record, FencedLines.endLine_record]
  omega

/-- A range goes as a whole. -/
theorem collect_range_dropped {isDropped : Entry → Bool} {cleaned : Entry → Line}
    {p : ℕ × FencedLines}
    (h : ∀ e : Entry, (p.2.record p.1).holds e.number = true → isDropped e = true)
    (gap afterBlank : Bool) (rest : List Entry) :
    collect isDropped cleaned gap afterBlank (Entry.numbered (p.1 + 1) p.2.lines ++ rest) =
      collect isDropped cleaned true afterBlank rest := by
  have hne : Entry.numbered (p.1 + 1) p.2.lines ≠ [] := by
    simp [FencedLines.lines, Entry.numbered]
  exact collect_append_dropped hne (fun e he => h e (holds_of_mem_numbered he)) gap afterBlank rest

/-- The lines of a range that stays are kept as they are but for its opening fence. -/
theorem collect_range_kept (hapart : o.Apart)
    (hproper : ∀ b ∈ o.blocks, b.startLine ≤ b.endLine) {isDropped : Entry → Bool}
    {p : ℕ × FencedLines} (hr : p.2.record p.1 ∈ o.records)
    (hkept : ∀ e : Entry, (p.2.record p.1).holds e.number = true → isDropped e = false)
    (gap afterBlank : Bool) (rest : List Entry) :
    ∃ afterBlank', collect isDropped (clean o) gap afterBlank
        (Entry.numbered (p.1 + 1) p.2.lines ++ rest) =
      Entry.numbered (p.1 + 1) (keptOpener p :: (p.2.inner ++ [p.2.closer])) ++
        collect isDropped (clean o) false afterBlank' rest := by
  have hclean := fun {e : Entry} h => clean_fenced hapart hproper hr (e := e) h
  have hholds := fun e he => holds_of_mem_numbered (p := p) (e := e) he
  rw [FencedLines.lines, Entry.numbered] at hholds ⊢
  have hopener : clean o ⟨p.1 + 1, p.2.opener⟩ = keptOpener p := by
    rw [hclean (hholds _ (by simp)), FencedLines.startLine_record, keptOpener, beq_self_eq_true,
      Bool.and_true]
  have hinner : ∀ e ∈ Entry.numbered (p.1 + 1 + 1) (p.2.inner ++ [p.2.closer]),
      clean o e = e.text := by
    intro e he
    have hne : (e.number == (p.2.record p.1).startLine) = false := by
      have := (Entry.mem_numbered_iff.mp he).1
      rw [FencedLines.startLine_record, beq_eq_false_iff_ne]
      omega
    rw [hclean (hholds e (by simp [he])), hne, Bool.and_false, if_neg Bool.false_ne_true]
  obtain ⟨after, hrest⟩ := collect_append_kept
    (fun e he => hkept e (hholds e (by simp [he]))) hinner false rest
  refine ⟨after, ?_⟩
  rw [List.cons_append, collect_cons_kept (hkept _ (hholds _ (by simp)))
    (by rw [hopener]; exact allBlank_keptOpener p), hrest, hopener]
  rfl

/-- What a range that stays becomes among the kept lines: the same lines under the same numbers, but
for the markers of a block. -/
structure IsImage (kept : List Entry) (p q : ℕ × FencedLines) : Prop where
  place : ∃ pre post, kept = pre ++ Entry.numbered (p.1 + 1) q.2.lines ++ post ∧ pre.length = q.1
  opener_eq : q.2.opener = keptOpener p
  inner_eq : q.2.inner = p.2.inner
  closer_eq : q.2.closer = p.2.closer
  fence_eq : ∃ rest, q.2.fence = { p.2.fence with rest := rest } ∧ Marker.find rest = []
  info_eq : Info.parse q.2.fence.info = (Info.parse p.2.fence.info).shown

/-- A range that stays has an image, behind whatever was kept before it. -/
theorem exists_isImage (p : ℕ × FencedLines) :
    ∃ g : FencedLines, g.lines = keptOpener p :: (p.2.inner ++ [p.2.closer]) ∧
      ∀ done kept,
        IsImage (done ++ (Entry.numbered (p.1 + 1) g.lines ++ kept)) p (done.length, g) := by
  obtain ⟨g, rest, hopener, hinner, hcloser, hfence, hfind, hinfo⟩ := p.2.exists_cleaned
  rw [← keptOpener_eq] at hopener
  refine ⟨g, by rw [FencedLines.lines, hopener, hinner, hcloser], fun done kept => ?_⟩
  exact ⟨⟨done, kept, by rw [List.append_assoc], rfl⟩, hopener, hinner, hcloser,
    ⟨rest, hfence, hfind⟩, hinfo⟩

/-! ## The document -/

/-- A line behind the records of before and in front of the ranges to come is in no record. -/
theorem isFenced_eq_false {P : Line → Prop} {n : ℕ} {ls : List Line} {gs : List (ℕ × FencedLines)}
    (h : Layout P (n + 1) ls gs) {before : List Record}
    (ho : o.records = before ++ Layout.records gs) (hb : ∀ r ∈ before, r.endLine ≤ n) :
    o.isFenced (n + 1) = false := by
  rw [Outline.isFenced, List.any_eq_false, ho]
  intro r hr hn
  rw [Record.holds_iff] at hn
  rcases List.mem_append.mp hr with hr | hr
  · have := hb r hr
    omega
  · obtain ⟨p, hp, rfl⟩ := Layout.mem_records_iff.mp hr
    have := h.apart.1 p hp
    rw [FencedLines.startLine_record] at hn
    omega

/-- **What stays has a layout.**  Its lines outside fences are clean, and its ranges are the images
of the ranges that do not go; `done` is what was kept of the lines before. -/
theorem collect_layout {P : Line → Prop} (target : Target) (all : List Line) (hapart : o.Apart)
    (hproper : ∀ b ∈ o.blocks, b.startLine ≤ b.endLine) {n : ℕ} {ls : List Line}
    {gs : List (ℕ × FencedLines)} (h : Layout P n ls gs) :
    ∀ (before : List Record) (done : List Entry) (gap afterBlank : Bool),
      o.records = before ++ Layout.records gs → (∀ r ∈ before, r.endLine ≤ n) →
      ∃ kept gs', collect (fun e => (dropped o target all).contains e.number) (clean o) gap
          afterBlank (Entry.numbered (n + 1) ls) = kept ∧
        Layout IsClean done.length (kept.map Entry.text) gs' ∧
        List.Forall₂ (IsImage (done ++ kept))
          (gs.filter fun p => !removes o target all (p.2.record p.1)) gs' := by
  induction h with
  | nil =>
    intro before done gap afterBlank ho hb
    exact ⟨[], [], rfl, .nil, .nil⟩
  | @line n l ls gs hl hp rest ih =>
    intro before done gap afterBlank ho hb
    have hb' : ∀ r ∈ before, r.endLine ≤ n + 1 := fun r hr => (hb r hr).trans (by omega)
    obtain ⟨hfence, hclean, -⟩ := clean_unfenced (e := ⟨n + 1, l⟩) (isFenced_eq_false rest ho hb)
      hproper hl
    rw [Entry.numbered, collect]
    dsimp only
    split_ifs
    · exact ih before done true afterBlank ho hb'
    · exact ih before done false afterBlank ho hb'
    · obtain ⟨kept, gs', hkept, hlayout, himage⟩ := ih before
        (done ++ [⟨n + 1, clean o ⟨n + 1, l⟩⟩]) false (allBlank (clean o ⟨n + 1, l⟩)) ho hb'
      rw [List.length_append, List.length_singleton] at hlayout
      rw [List.append_assoc, List.singleton_append] at himage
      exact ⟨⟨n + 1, clean o ⟨n + 1, l⟩⟩ :: kept, gs', by rw [hkept],
        .line hfence hclean hlayout, himage⟩
  | @range n ls gs g rest ih =>
    intro before done gap afterBlank ho hb
    have hmem : g.record n ∈ o.records := by
      rw [ho]
      simp [Layout.records]
    have ho' : o.records = before ++ [g.record n] ++ Layout.records gs := by
      rw [ho, List.append_assoc]
      rfl
    have hb' : ∀ r ∈ before ++ [g.record n], r.endLine ≤ n + g.height := by
      intro r hr
      rcases List.mem_append.mp hr with hr | hr
      · exact (hb r hr).trans (by omega)
      · rw [List.mem_singleton.mp hr, FencedLines.endLine_record]
    have hdropped : ∀ e : Entry, (g.record n).holds e.number = true →
        (dropped o target all).contains e.number = removes o target all (g.record n) :=
      fun e he => contains_dropped_eq hapart hmem he
    rw [Entry.numbered_append, FencedLines.length_lines,
      show n + 1 + g.height = n + g.height + 1 by omega]
    cases hrem : removes o target all (g.record n) with
    | true =>
      rw [hrem] at hdropped
      rw [collect_range_dropped (p := (n, g)) hdropped, List.filter_cons_of_neg (by simp [hrem])]
      exact ih _ done true afterBlank ho' hb'
    | false =>
      rw [hrem] at hdropped
      obtain ⟨g', hlines, himages⟩ := exists_isImage (n, g)
      obtain ⟨after, hcollect⟩ := collect_range_kept hapart hproper (p := (n, g)) hmem hdropped gap
        afterBlank (Entry.numbered (n + g.height + 1) ls)
      obtain ⟨kept, gs', hkept, hlayout, himage⟩ := ih _
        (done ++ Entry.numbered (n + 1) g'.lines) false after ho' hb'
      rw [hcollect, hkept, ← hlines, List.filter_cons_of_pos (by simp [hrem])]
      refine ⟨_, (done.length, g') :: gs', rfl, ?_, .cons (himages done kept) ?_⟩
      · rw [List.map_append, Entry.map_text_numbered]
        refine .range g' ?_
        rwa [List.length_append, Entry.length_numbered, FencedLines.length_lines] at hlayout
      · rwa [List.append_assoc] at himage

end Exclusion

end Literate

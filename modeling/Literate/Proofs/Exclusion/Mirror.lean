import Mathlib
import Literate.Proofs.Exclusion.CleanDocument
import Literate.Proofs.Outline.Mirror

/-!
# Exclusion with other content in a record that goes

A record that goes leaves nothing behind but the gap where it was: the prose units end at it,
whatever it holds, and the blank lines around it are looked at in the same way.  So what is kept is
the same, at other lines.

* `MirrorEntries`: lines with their counterparts, and a record in between.
* `MirrorEntries.units_eq`: the prose units are the same at other lines.
* `Outline.IsRefilled.removes_eq`: a record goes when its counterpart does.
* `Outline.IsRefilled.contains_dropped_eq`, `Outline.IsRefilled.clean_eq`: a line is treated as its
  counterpart is.
* `Outline.IsRefilled.keptLines_eq`: what is kept is the same at other lines.
-/

namespace Literate

open Text

/-! ## Lines at other places -/

/-- The line with its number sent through a function. -/
def Entry.relocate (f : ℕ → ℕ) (e : Entry) : Entry := ⟨f e.number, e.text⟩

/-- The unit with its lines renumbered. -/
def ProseUnit.relocate (f : ℕ → ℕ) (u : ProseUnit) : ProseUnit :=
  ⟨u.kind, u.entries.map (Entry.relocate f)⟩

namespace Gathering

/-- The unit being gathered with its lines renumbered. -/
def relocate (f : ℕ → ℕ) : Gathering → Gathering
  | idle => idle
  | paragraph entries => paragraph (entries.map (Entry.relocate f))
  | list entries blanks => list (entries.map (Entry.relocate f)) (blanks.map (Entry.relocate f))

variable (f : ℕ → ℕ) (g : Gathering) (e : Entry)

theorem close_relocate : (g.relocate f).close = g.close.map (ProseUnit.relocate f) := by
  cases g <;> rfl

theorem start_relocate : start (e.relocate f) = (start e).relocate f := by
  rw [start, start, show (e.relocate f).text = e.text from rfl]
  split_ifs <;> rfl

theorem stepProse_relocate : (g.relocate f).stepProse (e.relocate f) =
    ((g.stepProse e).1.relocate f, (g.stepProse e).2.map (ProseUnit.relocate f)) := by
  have htext : (e.relocate f).text = e.text := rfl
  match g with
  | idle => exact Prod.ext (start_relocate f e) rfl
  | paragraph es =>
    show stepProse (paragraph (es.map (Entry.relocate f))) (e.relocate f) = _
    rw [stepProse.eq_def, stepProse.eq_def, htext]
    dsimp only
    split_ifs
    · exact Prod.ext (start_relocate f e) rfl
    · simp [relocate]
  | list es [] => simp [stepProse, relocate]
  | list es (b :: blanks) =>
    show stepProse (list (es.map (Entry.relocate f)) (b.relocate f ::
      blanks.map (Entry.relocate f))) (e.relocate f) = _
    rw [stepProse.eq_def, stepProse.eq_def, htext]
    dsimp only
    split_ifs
    · simp [relocate]
    · exact Prod.ext (start_relocate f e) rfl

theorem stepOther_relocate (isFenced : Bool) : (g.relocate f).stepOther isFenced (e.relocate f) =
    ((g.stepOther isFenced e).1.relocate f,
      (g.stepOther isFenced e).2.map (ProseUnit.relocate f)) := by
  cases g with
  | idle => rfl
  | paragraph es => rfl
  | list es blanks =>
    rw [relocate, stepOther, stepOther, show (e.relocate f).text = e.text from rfl]
    split_ifs
    · simp [relocate]
    · rfl

end Gathering

namespace ProseUnit

variable (f : ℕ → ℕ) (target : Target)

theorem itemLines_relocate (hidden? : Option ℕ) (es : List Entry) :
    itemLines target hidden? (es.map (Entry.relocate f)) =
      (itemLines target hidden? es).map (Entry.relocate f) := by
  induction es generalizing hidden? with
  | nil => rfl
  | cons e es ih =>
    have hmarked : isMarkedItem target (e.relocate f) = isMarkedItem target e := rfl
    rw [List.map_cons, itemLines, itemLines, show (e.relocate f).text = e.text from rfl, hmarked]
    dsimp only
    split_ifs
    all_goals simp [ih]

theorem bareLines_relocate (es : List Entry) :
    bareLines target (es.map (Entry.relocate f)) =
      (bareLines target es).map (Entry.relocate f) := by
  rw [bareLines, bareLines, List.filter_map]
  rfl

theorem isMarkedWhole_relocate (scope : Scope) (u : ProseUnit) :
    (u.relocate f).isMarkedWhole target scope = u.isMarkedWhole target scope := by
  rw [isMarkedWhole, isMarkedWhole, relocate]
  cases u.entries <;> rfl

/-- A unit gives up the same lines wherever it stands. -/
theorem excluded_relocate (u : ProseUnit) :
    (u.relocate f).excluded target = (u.excluded target).map (Entry.relocate f) := by
  rw [excluded, excluded, isMarkedWhole_relocate, isMarkedWhole_relocate,
    show (u.relocate f).kind = u.kind from rfl,
    show (u.relocate f).entries = u.entries.map (Entry.relocate f) from rfl]
  cases u.kind with
  | paragraph =>
    simp only
    split_ifs
    · rfl
    · exact bareLines_relocate f target u.entries
  | list =>
    simp only
    split_ifs
    · rfl
    · rw [itemLines_relocate, bareLines_relocate, List.map_append]

end ProseUnit

/-! ## Documents line by line -/

/-- Lines and their counterparts in another document; in place of the lines of the record `r` there
are those of `r'`. -/
inductive MirrorEntries (f : ℕ → ℕ) (K : ℕ → Prop) (r r' : Record) :
    List Entry → List Entry → Prop
  | nil : MirrorEntries f K r r' [] []
  | line {e : Entry} {es es' : List Entry} (hk : K e.number)
    (rest : MirrorEntries f K r r' es es') :
    MirrorEntries f K r r' (e :: es) (e.relocate f :: es')
  | range {rs rs' es es' : List Entry} (hne : rs ≠ []) (hne' : rs' ≠ [])
    (hrs : ∀ e ∈ rs, r.holds e.number = true) (hrs' : ∀ e ∈ rs', r'.holds e.number = true)
    (rest : MirrorEntries f K r r' es es') : MirrorEntries f K r r' (rs ++ es) (rs' ++ es')

namespace MirrorEntries

variable {f : ℕ → ℕ} {K : ℕ → Prop} {r r' : Record} {es es' : List Entry} {o o' : Outline}

theorem numbered_append {a a' : ℕ} {ls : List Line}
    (h : ∀ j < ls.length, K (a + j) ∧ f (a + j) = a' + j) (rest : MirrorEntries f K r r' es es') :
    MirrorEntries f K r r' (Entry.numbered a ls ++ es) (Entry.numbered a' ls ++ es') := by
  induction ls generalizing a a' with
  | nil => exact rest
  | cons l ls ih =>
    obtain ⟨hk, hf⟩ := h 0 (by simp)
    have hnext : ∀ j < ls.length, K (a + 1 + j) ∧ f (a + 1 + j) = a' + 1 + j := by
      intro j hj
      have := h (j + 1) (by simpa using hj)
      rwa [show a + 1 + j = a + (j + 1) by omega, show a' + 1 + j = a' + (j + 1) by omega]
    have hrest := ih hnext
    rw [Entry.numbered, Entry.numbered, List.cons_append, List.cons_append]
    have hline := line (e := ⟨a, l⟩) hk hrest
    rwa [Entry.relocate, show f a = a' from hf] at hline

/-! ## Prose units -/

theorem unitsFrom_append_fenced {rs : List Entry} (hne : rs ≠ [])
    (hrs : ∀ e ∈ rs, o.isFenced e.number = true) (g : Gathering) (es : List Entry) :
    Prose.unitsFrom o g (rs ++ es) = g.close ++ Prose.unitsFrom o .idle es := by
  have hstep : ∀ e ∈ rs, ∀ g, Prose.step o g e = (.idle, g.close) := by
    intro e he g
    have hprose : Prose.isProse o e = false := by simp [Prose.isProse, hrs e he]
    rw [Prose.step, hprose, if_neg (by simp), hrs e he]
    cases g <;> rfl
  induction rs generalizing g with
  | nil => exact absurd rfl hne
  | cons e rs ih =>
    rw [List.cons_append, Prose.unitsFrom, hstep e (by simp)]
    cases rs with
    | nil => rfl
    | cons e' rs =>
      dsimp only
      rw [ih (by simp) (fun e he => hrs e (by simp [he])) .idle
        (fun e he => hstep e (by simp [he]))]
      rfl

theorem isProse_eq (hm : o.Mirrors f K o') {e : Entry} (hk : K e.number) :
    Prose.isProse o' (e.relocate f) = Prose.isProse o e := by
  rw [Prose.isProse, Prose.isProse, Entry.relocate, hm.isFenced_eq hk]

theorem unitsFrom_relocate (h : MirrorEntries f K r r' es es') (hm : o.Mirrors f K o')
    (hr : r ∈ o.records) (hr' : r' ∈ o'.records) (g : Gathering) :
    Prose.unitsFrom o' (g.relocate f) es' =
      (Prose.unitsFrom o g es).map (ProseUnit.relocate f) := by
  induction h generalizing g with
  | nil => exact Gathering.close_relocate f g
  | @line e es es' hk rest ih =>
    have hstep : Prose.step o' (g.relocate f) (e.relocate f) =
        ((Prose.step o g e).1.relocate f,
          (Prose.step o g e).2.map (ProseUnit.relocate f)) := by
      rw [Prose.step, Prose.step, isProse_eq hm hk,
        show o'.isFenced (e.relocate f).number = _ from hm.isFenced_eq hk]
      split_ifs
      · exact Gathering.stepProse_relocate f g e
      · exact Gathering.stepOther_relocate f g e _
    rw [Prose.unitsFrom, Prose.unitsFrom, hstep]
    dsimp only
    rw [ih, List.map_append]
  | @range rs rs' es es' hne hne' hrs hrs' rest ih =>
    have hfenced : ∀ e ∈ rs, o.isFenced e.number = true :=
      fun e he => List.any_eq_true.mpr ⟨r, hr, hrs e he⟩
    have hfenced' : ∀ e ∈ rs', o'.isFenced e.number = true :=
      fun e he => List.any_eq_true.mpr ⟨r', hr', hrs' e he⟩
    rw [unitsFrom_append_fenced hne hfenced, unitsFrom_append_fenced hne' hfenced', List.map_append,
      Gathering.close_relocate]
    exact congrArg _ (ih .idle)

/-- **The prose units** are the same at other lines. -/
theorem units_eq (h : MirrorEntries f K r r' es es') (hm : o.Mirrors f K o')
    (hr : r ∈ o.records) (hr' : r' ∈ o'.records) :
    Prose.units o' es' = (Prose.units o es).map (ProseUnit.relocate f) :=
  h.unitsFrom_relocate hm hr hr' .idle

/-! ## What is kept -/

/-- **What is kept** is the same at other lines when counterparts are treated alike and nothing of
the record stays. -/
theorem collect_eq {isDropped isDropped' : Entry → Bool} {cleaned cleaned' : Entry → Line}
    (h : MirrorEntries f K r r' es es')
    (hdropped : ∀ e ∈ es, K e.number → isDropped' (e.relocate f) = isDropped e)
    (hcleaned : ∀ e, K e.number → cleaned' (e.relocate f) = cleaned e)
    (hr : ∀ e, r.holds e.number = true → isDropped e = true)
    (hr' : ∀ e, r'.holds e.number = true → isDropped' e = true) (gap afterBlank : Bool) :
    Exclusion.collect isDropped' cleaned' gap afterBlank es' =
      (Exclusion.collect isDropped cleaned gap afterBlank es).map (Entry.relocate f) := by
  induction h generalizing gap afterBlank with
  | nil => rfl
  | @line e es es' hk rest ih =>
    have hrest := ih fun e he => hdropped e (List.mem_cons_of_mem _ he)
    rw [Exclusion.collect, Exclusion.collect, hdropped e (by simp) hk, hcleaned e hk]
    dsimp only
    split_ifs
    · exact hrest _ _
    · exact hrest _ _
    · rw [hrest, List.map_cons]
      rfl
  | @range rs rs' es es' hne hne' hrs hrs' rest ih =>
    rw [Exclusion.collect_append_dropped hne fun e he => hr e (hrs e he),
      Exclusion.collect_append_dropped hne' fun e he => hr' e (hrs' e he)]
    exact ih (fun e he => hdropped e (List.mem_append_right _ he)) _ _

end MirrorEntries

/-- The lines of two documents that differ in a range. -/
theorem mirrorEntries_refilled (pre : List Line) (g g' : FencedLines) (post : List Line) :
    MirrorEntries (refilled pre.length g.height g'.height) (Stays pre.length g.height)
      (g.record pre.length) (g'.record pre.length)
      (Entry.numbered 1 (pre ++ g.lines ++ post)) (Entry.numbered 1 (pre ++ g'.lines ++ post)) := by
  have hheight := g.two_le_height
  have hsplit : ∀ g₁ : FencedLines, Entry.numbered 1 (pre ++ g₁.lines ++ post) =
      Entry.numbered 1 pre ++ (Entry.numbered (pre.length + 1) g₁.lines ++
        (Entry.numbered (pre.length + g₁.height + 1) post ++ [])) := by
    intro g₁
    rw [Entry.numbered_append, Entry.numbered_append, List.length_append, FencedLines.length_lines,
      List.append_nil, List.append_assoc, Nat.add_comm 1 pre.length,
      Nat.add_comm 1 (pre.length + g₁.height)]
  have hne : ∀ g₁ : FencedLines, Entry.numbered (pre.length + 1) g₁.lines ≠ [] := by
    intro g₁
    simp [FencedLines.lines, Entry.numbered]
  have hholds : ∀ g₁ : FencedLines, ∀ e ∈ Entry.numbered (pre.length + 1) g₁.lines,
      (g₁.record pre.length).holds e.number = true :=
    fun g₁ e he => Exclusion.holds_of_mem_numbered (p := (pre.length, g₁)) he
  rw [hsplit g, hsplit g']
  refine .numbered_append (fun j hj => ?_)
    (.range (hne g) (hne g') (hholds g) (hholds g') (.numbered_append (fun j hj => ?_) .nil))
  · exact ⟨.inl (by omega), refilled_of_le (by omega)⟩
  · refine ⟨.inr (by omega), ?_⟩
    rw [refilled_of_lt (by omega)]
    omega

namespace Outline.IsRefilled

variable {pre post : List Line} {g g' : FencedLines} {o o' : Outline} {target : Target}

/-- A record goes when its counterpart does. -/
theorem removes_eq (h : IsRefilled pre g g' post o o') {r r' : Record} (hr : r ∈ o.records)
    (hrr : Record.Mirrors (refilled pre.length g.height g'.height) r r') :
    Exclusion.removes o' target (pre ++ g'.lines ++ post) r' =
      Exclusion.removes o target (pre ++ g.lines ++ post) r := by
  have hexcluded : ∀ {b b' : Block},
      Record.Mirrors (refilled pre.length g.height g'.height) (.block b) (.block b') →
      b'.isExcludedFrom target = b.isExcludedFrom target := by
    intro b b' hbb
    cases hbb with
    | block hstart hend hinfo => rw [Block.isExcludedFrom, Block.isExcludedFrom, hinfo]
  cases hrr with
  | block hstart hend hinfo => exact hexcluded (.block hstart hend hinfo)
  | output q =>
    refine forall₂_any_eq h.mirrors.blocks fun b hb b' hbb => ?_
    rw [hexcluded hbb, h.attachedOutput?_eq hb hbb]
    congr 1
    cases hattached : o.attachedOutput? (pre ++ g.lines ++ post) b with
    | none => rfl
    | some q' =>
      have hq' := Outline.mem_outputs_iff.mpr (Exclusion.mem_records_of_attachedOutput? hattached)
      rw [Bool.eq_iff_iff, beq_iff_eq, beq_iff_eq, Option.map_some, Option.some.injEq,
        Option.some.injEq]
      exact h.mirrors.relocate_eq_iff hq' (Outline.mem_outputs_iff.mpr hr)

theorem apart (h : IsRefilled pre g g' post o o') : o.Apart ∧ o'.Apart := by
  obtain ⟨gs, hlayout, hrecords⟩ := exists_layout_of_ofLines h.parsed
  obtain ⟨gs', hlayout', hrecords'⟩ := exists_layout_of_ofLines h.parsed'
  exact ⟨hlayout.apart_outline hrecords, hlayout'.apart_outline hrecords'⟩

/-- A line is dropped when its counterpart is. -/
theorem contains_dropped_eq (h : IsRefilled pre g g' post o o') {k : ℕ}
    (hk : Stays pre.length g.height k) :
    (Exclusion.dropped o' target (pre ++ g'.lines ++ post)).contains
        (refilled pre.length g.height g'.height k) =
      (Exclusion.dropped o target (pre ++ g.lines ++ post)).contains k := by
  have hentries := mirrorEntries_refilled pre g g' post
  cases hfenced : o.isFenced k with
  | true =>
    obtain ⟨r, hr, hholds⟩ := List.any_eq_true.mp hfenced
    obtain ⟨i, hi, rfl⟩ := List.getElem_of_mem hr
    have hi' : i < o'.records.length := h.mirrors.records.length_eq ▸ hi
    have hrr : Record.Mirrors _ o.records[i] o'.records[i] := h.mirrors.records.get hi hi'
    have hholds' := h.mirrors.holds_eq hr hrr hk
    rw [hholds] at hholds'
    rw [Exclusion.contains_dropped_eq h.apart.1 hr hholds,
      Exclusion.contains_dropped_eq h.apart.2 (List.getElem_mem hi') hholds', h.removes_eq hr hrr]
  | false =>
    have hfenced' := h.mirrors.isFenced_eq hk
    rw [hfenced] at hfenced'
    -- the lines that units give up have counterparts
    have hnumber : ∀ u ∈ Prose.units o (Entry.numbered 1 (pre ++ g.lines ++ post)),
        ∀ e ∈ u.excluded target, (refilled pre.length g.height g'.height e.number =
          refilled pre.length g.height g'.height k ↔ e.number = k) := by
      intro u hu e he
      have hout := List.any_eq_false.mp (Exclusion.isFenced_eq_false_of_excluded hu he) _ h.mem
      exact h.mirrors.eq_iff (FencedLines.stays_of_holds_eq_false (Bool.eq_false_iff.mpr hout)) hk
    rw [Bool.eq_iff_iff, List.contains_iff_mem, List.contains_iff_mem,
      Exclusion.mem_dropped_unfenced hfenced, Exclusion.mem_dropped_unfenced hfenced',
      hentries.units_eq h.mirrors h.mem h.mem']
    constructor
    · rintro ⟨_, hmoved, _, he, heq⟩
      obtain ⟨u, hu, rfl⟩ := List.mem_map.mp hmoved
      rw [ProseUnit.excluded_relocate] at he
      obtain ⟨e, he', rfl⟩ := List.mem_map.mp he
      exact ⟨u, hu, e, he', (hnumber u hu e he').mp heq⟩
    · rintro ⟨u, hu, e, he, rfl⟩
      refine ⟨_, List.mem_map_of_mem hu,
        e.relocate (refilled pre.length g.height g'.height), ?_, rfl⟩
      rw [ProseUnit.excluded_relocate]
      exact List.mem_map_of_mem he

/-- A line that stays looks like its counterpart. -/
theorem clean_eq (h : IsRefilled pre g g' post o o') {e : Entry}
    (hk : Stays pre.length g.height e.number) :
    Exclusion.clean o' (e.relocate (refilled pre.length g.height g'.height)) =
      Exclusion.clean o e := by
  have hstart := h.mirrors.any_startLine_eq hk
  have hprose := MirrorEntries.isProse_eq h.mirrors hk
  rw [Entry.relocate] at hprose ⊢
  rw [Exclusion.clean, Exclusion.clean, hprose, hstart]

/-- **The kept lines** are the same at other lines when the record goes. -/
theorem keptLines_eq (h : IsRefilled pre g g' post o o')
    (hr : Exclusion.removes o target (pre ++ g.lines ++ post) (g.record pre.length) = true) :
    Exclusion.keptLines o' target (pre ++ g'.lines ++ post) =
      (Exclusion.keptLines o target (pre ++ g.lines ++ post)).map
        (Entry.relocate (refilled pre.length g.height g'.height)) := by
  have hr' : Exclusion.removes o' target (pre ++ g'.lines ++ post) (g'.record pre.length) =
      true := by
    rw [h.removes_eq h.mem h.record_mirrors, hr]
  refine (mirrorEntries_refilled pre g g' post).collect_eq (fun e _ hk => ?_)
    (fun e hk => h.clean_eq hk) (fun e he => ?_) (fun e he => ?_) false true
  · exact h.contains_dropped_eq hk
  · rw [Exclusion.contains_dropped_eq h.apart.1 h.mem he, hr]
  · rw [Exclusion.contains_dropped_eq h.apart.2 h.mem' he, hr']

/-- A line that is kept has a counterpart when the record goes. -/
theorem stays_of_mem_keptLines (h : IsRefilled pre g g' post o o')
    (hr : Exclusion.removes o target (pre ++ g.lines ++ post) (g.record pre.length) = true)
    {e : Entry} (he : e ∈ Exclusion.keptLines o target (pre ++ g.lines ++ post)) :
    Stays pre.length g.height e.number := by
  obtain ⟨e₀, -, hkept, rfl⟩ := Exclusion.exists_of_mem_collect he
  refine FencedLines.stays_of_holds_eq_false (Bool.eq_false_iff.mpr fun hholds => ?_)
  rw [Exclusion.contains_dropped_eq h.apart.1 h.mem hholds, hr] at hkept
  cases hkept

end Outline.IsRefilled

end Literate

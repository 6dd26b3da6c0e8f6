import Mathlib
import Literate.Exclusion.Basic
import Literate.Proofs.Marker

/-!
# Lines of prose units

The lines of a unit are prose, or blank lines that a list goes on over; none of them is fenced.
The units part the prose of a document, each line in its place.  What a unit gives up are lines of
its own, and it gives up none unless one of them has a marker.

* `Prose.mem_units`: the lines of units.
* `Prose.flatMap_units_sublist`: the lines of units come in the order of the document, each once.
* `Prose.existsUnique_unit`: every prose line is in one unit.
* `ProseUnit.mem_of_mem_excluded`: a unit gives up lines of its own.
* `ProseUnit.excluded_eq_nil`: without markers nothing is given up.
-/

namespace Literate

open Text

namespace Gathering

/-- The lines gathered, those held back included. -/
def entries : Gathering → List Entry
  | idle => []
  | paragraph es => es
  | list es blanks => es ++ blanks

theorem mem_of_mem_close {g : Gathering} {u : ProseUnit} {e : Entry} (hu : u ∈ g.close)
    (he : e ∈ u.entries) : e ∈ g.entries := by
  cases g with
  | idle => cases hu
  | paragraph es =>
    obtain rfl := List.mem_singleton.mp hu
    exact he
  | list es blanks =>
    obtain rfl := List.mem_singleton.mp hu
    exact List.mem_append_left _ he

theorem entries_start (e : Entry) : (start e).entries = [e] := by
  unfold start
  split_ifs <;> rfl

/-- Nothing is finished but what was gathered. -/
theorem flatMap_close_sublist (g : Gathering) :
    (g.close.flatMap ProseUnit.entries).Sublist g.entries := by
  cases g with
  | idle => simp [close]
  | paragraph es => simp [close, entries]
  | list es blanks => simp [close, entries]

/-- A unit that starts with a line has it, whatever follows. -/
theorem mem_close_start (e : Entry) : e ∈ (start e).close.flatMap ProseUnit.entries := by
  unfold start
  split_ifs <;> simp [close]

/-- A prose line is in the unit being gathered, and what was there before stays or is finished. -/
theorem mem_stepProse {g : Gathering} {e f : Entry}
    (h : f ∈ g.close.flatMap ProseUnit.entries ∨ f = e) :
    f ∈ ((g.stepProse e).2 ++ (g.stepProse e).1.close).flatMap ProseUnit.entries := by
  have hstart : f ∈ (g.close ++ (start e).close).flatMap ProseUnit.entries := by
    rw [List.flatMap_append, List.mem_append]
    rcases h with h | rfl
    · exact .inl h
    · exact .inr (mem_close_start f)
  match g with
  | idle => exact hstart
  | paragraph es =>
    rw [stepProse.eq_def]
    dsimp only
    split_ifs
    · exact hstart
    · simpa [close] using h
  | list es [] => simpa [stepProse, close] using h
  | list es (b :: blanks) =>
    rw [stepProse.eq_def]
    dsimp only
    split_ifs
    · rcases h with h | rfl
      · have : f ∈ es := by simpa [close] using h
        simp [close, this]
      · simp [close]
    · exact hstart

/-- What was gathered stays or is finished when another line is read. -/
theorem mem_stepOther {g : Gathering} {isFenced : Bool} {e f : Entry}
    (h : f ∈ g.close.flatMap ProseUnit.entries) :
    f ∈ ((g.stepOther isFenced e).2 ++ (g.stepOther isFenced e).1.close).flatMap
      ProseUnit.entries := by
  have hclose : f ∈ (g.close ++ idle.close).flatMap ProseUnit.entries := by simpa [close] using h
  cases g with
  | idle => exact hclose
  | paragraph es => exact hclose
  | list es blanks =>
    rw [stepOther]
    split_ifs
    · simpa [close] using h
    · exact hclose

/-- A prose line is gathered, or it starts over and what was gathered is finished. -/
theorem stepProse_cases (g : Gathering) (e : Entry) :
    ((g.stepProse e).1.entries = g.entries ++ [e] ∧ (g.stepProse e).2 = []) ∨
      ((g.stepProse e).1.entries = [e] ∧ (g.stepProse e).2 = g.close) := by
  match g with
  | idle => exact .inr ⟨entries_start e, rfl⟩
  | paragraph es =>
    rw [stepProse.eq_def]
    dsimp only
    split_ifs
    · exact .inr ⟨entries_start e, rfl⟩
    · exact .inl ⟨rfl, rfl⟩
  | list es [] => exact .inl ⟨by simp [stepProse, entries], rfl⟩
  | list es (b :: blanks) =>
    rw [stepProse.eq_def]
    dsimp only
    split_ifs
    · exact .inl ⟨by simp [entries], rfl⟩
    · exact .inr ⟨entries_start e, rfl⟩

/-- A line that is no prose is held back when it is blank and a list is gathered; any other finishes
what was gathered. -/
theorem stepOther_cases (g : Gathering) (isFenced : Bool) (e : Entry) :
    ((g.stepOther isFenced e).1.entries = g.entries ++ [e] ∧ (g.stepOther isFenced e).2 = [] ∧
        isFenced = false ∧ allBlank e.text = true) ∨
      ((g.stepOther isFenced e).1 = idle ∧ (g.stepOther isFenced e).2 = g.close) := by
  cases g with
  | idle => exact .inr ⟨rfl, rfl⟩
  | paragraph es => exact .inr ⟨rfl, rfl⟩
  | list es blanks =>
    rw [stepOther]
    split_ifs with h
    · exact .inl ⟨by simp [entries], rfl, by simpa using h⟩
    · exact .inr ⟨rfl, rfl⟩

end Gathering

namespace Prose

/-- A line that can be in a unit. -/
def IsMember (o : Outline) (e : Entry) : Prop :=
  o.isFenced e.number = false ∧ (isProse o e = true ∨ allBlank e.text = true)

theorem isFenced_of_isProse {o : Outline} {e : Entry} (h : isProse o e = true) :
    o.isFenced e.number = false := by
  simp only [isProse, Bool.not_eq_true', Bool.or_eq_false_iff] at h
  exact h.1.1

/-- What one line adds and finishes. -/
theorem step_cases (o : Outline) (g : Gathering) (e : Entry) :
    (∀ f ∈ (step o g e).1.entries, f ∈ g.entries ∨ f = e ∧ IsMember o e) ∧
      ∀ u ∈ (step o g e).2, ∀ f ∈ u.entries, f ∈ g.entries := by
  have hclose : ∀ u ∈ g.close, ∀ f ∈ u.entries, f ∈ g.entries :=
    fun u hu f hf => Gathering.mem_of_mem_close hu hf
  have hadd : IsMember o e → ∀ f ∈ g.entries ++ [e], f ∈ g.entries ∨ f = e ∧ IsMember o e := by
    intro he f hf
    rcases List.mem_append.mp hf with hf | hf
    · exact .inl hf
    · exact .inr ⟨List.mem_singleton.mp hf, he⟩
  rw [step]
  split_ifs with hp
  · have he : IsMember o e := ⟨isFenced_of_isProse hp, .inl hp⟩
    rcases g.stepProse_cases e with ⟨h1, h2⟩ | ⟨h1, h2⟩
    · rw [h1, h2]
      exact ⟨hadd he, by simp⟩
    · rw [h1, h2]
      exact ⟨fun f hf => .inr ⟨List.mem_singleton.mp hf, he⟩, hclose⟩
  · rcases g.stepOther_cases (o.isFenced e.number) e with ⟨h1, h2, hf, hb⟩ | ⟨h1, h2⟩
    · rw [h1, h2]
      exact ⟨hadd ⟨hf, .inr hb⟩, by simp⟩
    · rw [h1, h2]
      exact ⟨by simp [Gathering.entries], hclose⟩

theorem mem_unitsFrom {o : Outline} {es : List Entry} :
    ∀ {g : Gathering} {u : ProseUnit} {f : Entry}, u ∈ unitsFrom o g es → f ∈ u.entries →
      f ∈ g.entries ∨ f ∈ es ∧ IsMember o f := by
  induction es with
  | nil => intro g u f hu hf; exact .inl (Gathering.mem_of_mem_close hu hf)
  | cons e es ih =>
    intro g u f hu hf
    obtain ⟨hstep, hfinished⟩ := step_cases o g e
    rw [unitsFrom] at hu
    rcases List.mem_append.mp hu with hu | hu
    · exact .inl (hfinished u hu f hf)
    · rcases ih hu hf with hf | ⟨hf, hm⟩
      · rcases hstep f hf with hf | ⟨rfl, hm⟩
        · exact .inl hf
        · exact .inr ⟨by simp, hm⟩
      · exact .inr ⟨by simp [hf], hm⟩

/-- **The lines of units** are lines of the document outside fences, prose or blank. -/
theorem mem_units {o : Outline} {es : List Entry} {u : ProseUnit} {e : Entry}
    (hu : u ∈ units o es) (he : e ∈ u.entries) : e ∈ es ∧ IsMember o e := by
  rcases mem_unitsFrom hu he with h | h
  · cases h
  · exact h

/-! ## Units part the prose -/

/-- What one line finishes and leaves gathered are the lines so far, in order. -/
theorem step_sublist (o : Outline) (g : Gathering) (e : Entry) :
    ((step o g e).2.flatMap ProseUnit.entries ++ (step o g e).1.entries).Sublist
      (g.entries ++ [e]) := by
  have hclose := g.flatMap_close_sublist
  rw [step]
  split_ifs
  · rcases g.stepProse_cases e with ⟨h1, h2⟩ | ⟨h1, h2⟩
    · rw [h1, h2]
      simp
    · rw [h1, h2]
      exact hclose.append (.refl [e])
  · rcases g.stepOther_cases (o.isFenced e.number) e with ⟨h1, h2, -, -⟩ | ⟨h1, h2⟩
    · rw [h1, h2]
      simp
    · rw [h1, h2]
      exact hclose.append (List.nil_sublist [e])

theorem flatMap_unitsFrom_sublist (o : Outline) (es : List Entry) (g : Gathering) :
    ((unitsFrom o g es).flatMap ProseUnit.entries).Sublist (g.entries ++ es) := by
  induction es generalizing g with
  | nil => simpa [unitsFrom] using g.flatMap_close_sublist
  | cons e es ih =>
    rw [unitsFrom]
    dsimp only
    rw [List.flatMap_append]
    refine ((List.Sublist.refl _).append (ih (step o g e).1)).trans ?_
    rw [← List.append_assoc, show g.entries ++ e :: es = g.entries ++ [e] ++ es by simp]
    exact (step_sublist o g e).append (.refl es)

/-- **The lines of units come in the order of the document**, each once. -/
theorem flatMap_units_sublist (o : Outline) (es : List Entry) :
    ((units o es).flatMap ProseUnit.entries).Sublist es :=
  flatMap_unitsFrom_sublist o es .idle

theorem exists_mem_unitsFrom {o : Outline} {es : List Entry} {f : Entry} :
    ∀ {g : Gathering}, f ∈ g.close.flatMap ProseUnit.entries ∨ f ∈ es ∧ isProse o f = true →
      ∃ u ∈ unitsFrom o g es, f ∈ u.entries := by
  induction es with
  | nil =>
    intro g h
    exact List.mem_flatMap.mp (by simpa [unitsFrom] using h)
  | cons e es ih =>
    intro g h
    -- the line is finished, gathered now, or still to be read
    have hstep : f ∈ ((step o g e).2 ++ (step o g e).1.close).flatMap ProseUnit.entries ∨
        f ∈ es ∧ isProse o f = true := by
      rw [step]
      rcases h with h | ⟨h, hf⟩
      · split_ifs
        · exact .inl (Gathering.mem_stepProse (.inl h))
        · exact .inl (Gathering.mem_stepOther h)
      · rcases List.mem_cons.mp h with rfl | h
        · rw [if_pos hf]
          exact .inl (Gathering.mem_stepProse (.inr rfl))
        · exact .inr ⟨h, hf⟩
    rw [unitsFrom]
    dsimp only
    rw [List.flatMap_append, List.mem_append] at hstep
    rcases hstep with (hfinished | hgathered) | hrest
    · obtain ⟨u, hu, hfu⟩ := List.mem_flatMap.mp hfinished
      exact ⟨u, List.mem_append_left _ hu, hfu⟩
    · obtain ⟨u, hu, hfu⟩ := ih (.inl hgathered)
      exact ⟨u, List.mem_append_right _ hu, hfu⟩
    · obtain ⟨u, hu, hfu⟩ := ih (.inr hrest)
      exact ⟨u, List.mem_append_right _ hu, hfu⟩

/-- No line is in two units. -/
theorem unit_unique {o : Outline} {es : List Entry} (hes : es.Nodup) {u v : ProseUnit} {e : Entry}
    (hu : u ∈ units o es) (hv : v ∈ units o es) (heu : e ∈ u.entries) (hev : e ∈ v.entries) :
    u = v := by
  have hnodup : ((units o es).flatMap ProseUnit.entries).Nodup :=
    hes.sublist (flatMap_units_sublist o es)
  have hdisjoint := (List.nodup_flatMap.mp hnodup).2
  by_contra hne
  have : Std.Symm (Function.onFun List.Disjoint ProseUnit.entries) := ⟨fun _ _ h => h.symm⟩
  exact hdisjoint.forall hu hv hne heu hev

/-- **Every prose line is in one unit.** -/
theorem existsUnique_unit {o : Outline} {es : List Entry} (hes : es.Nodup) {e : Entry}
    (he : e ∈ es) (hprose : isProse o e = true) : ∃! u, u ∈ units o es ∧ e ∈ u.entries := by
  obtain ⟨u, hu, heu⟩ := exists_mem_unitsFrom (g := .idle) (.inr ⟨he, hprose⟩)
  exact ⟨u, ⟨hu, heu⟩, fun v ⟨hv, hev⟩ => unit_unique hes hv hu hev heu⟩

end Prose

namespace ProseUnit

theorem itemLines_sublist (target : Target) (hidden? : Option ℕ) (es : List Entry) :
    (itemLines target hidden? es).Sublist es := by
  induction es generalizing hidden? with
  | nil => exact .slnil
  | cons e es ih =>
    rw [itemLines]
    dsimp only
    split_ifs
    all_goals first | exact (ih _).cons_cons e | exact (ih _).cons e

/-- A unit gives up lines of its own. -/
theorem mem_of_mem_excluded {target : Target} {u : ProseUnit} {e : Entry}
    (he : e ∈ u.excluded target) : e ∈ u.entries := by
  rw [excluded] at he
  split at he
  · split_ifs at he
    · exact he
    · exact List.mem_of_mem_filter he
  · split_ifs at he
    · exact he
    · rcases List.mem_append.mp he with he | he
      · exact (itemLines_sublist target none u.entries).subset he
      · exact List.mem_of_mem_filter he

theorem has_eq_false {target : Target} {scope : Scope} {t : Text} (h : Marker.find t = []) :
    Marker.has target scope t = false := by
  simp [Marker.has, h]

theorem itemLines_eq_nil {target : Target} {es : List Entry}
    (h : ∀ e ∈ es, Marker.find e.text = []) : itemLines target none es = [] := by
  induction es with
  | nil => rfl
  | cons e es ih =>
    have he := h e (by simp)
    have hrest := ih fun f hf => h f (by simp [hf])
    rw [itemLines]
    simp [isMarkedItem, has_eq_false he, hrest]

/-- Without markers nothing is given up. -/
theorem excluded_eq_nil {target : Target} {u : ProseUnit}
    (h : ∀ e ∈ u.entries, Marker.find e.text = []) : u.excluded target = [] := by
  have hwhole : ∀ scope, u.isMarkedWhole target scope = false := by
    intro scope
    rw [isMarkedWhole]
    cases hu : u.entries with
    | nil => rfl
    | cons e es => exact has_eq_false (h e (by simp [hu]))
  have hbare : bareLines target u.entries = [] := by
    rw [bareLines, List.filter_eq_nil_iff]
    intro e he
    simp [has_eq_false (h e he)]
  rw [excluded]
  split
  · rw [hwhole, hbare]; rfl
  · rw [hwhole, hbare, itemLines_eq_nil h]; rfl

end ProseUnit

end Literate

import Mathlib
import Literate.Proofs.Exclusion.Headings
import Literate.Proofs.Exclusion.Selection

/-!
# Prose and its markers

Which prose lines go is said of the lines of their unit alone: the line has the bare marker, or the
first line of the unit has the marker for the whole of it, or a marked item of the list holds the
line.  An item holds the lines after it up to the next item that is not indented further.

Reading a list, only the outermost excluded item is remembered.  Nothing is missed by that: what ends
an item ends every item inside it, so a marked item inside an excluded one holds no line that the
outer one does not hold.

* `ProseUnit.Holds`: the lines that belong to an item.
* `ProseUnit.mem_itemLines_iff`: the lines of excluded items, the ones inside others included.
* `ProseUnit.Loses`: the rule for a line of a unit.
* `keptLines_prose`: which prose lines are dropped, and what the others look like.
-/

namespace Literate

open Text

theorem Entry.increasing_numbered (n : ℕ) (ls : List Line) :
    ((numbered n ls).map number).Pairwise (· < ·) := by
  rw [map_number_numbered]
  exact List.pairwise_lt_range'

namespace ProseUnit

/-! ## Items and the lines they hold -/

/-- No item up to line `n` ends an item that is indented by `k`. -/
def StaysInside (es : List Entry) (k n : ℕ) : Prop :=
  ∀ j ∈ es, LineKind.isItem j.text = true → j.number ≤ n → k < LineKind.indentation j.text

/-- The item `i` holds line `n`: the line does not come before it, and no item after it up to the line
is indented as little as it is. -/
def Holds (es : List Entry) (i : Entry) (n : ℕ) : Prop :=
  i.number ≤ n ∧ ∀ j ∈ es, LineKind.isItem j.text = true → i.number < j.number → j.number ≤ n →
    LineKind.indentation i.text < LineKind.indentation j.text

/-- An excluded item holds line `n`. -/
def HeldByMarked (target : Target) (es : List Entry) (n : ℕ) : Prop :=
  ∃ i ∈ es, LineKind.isItem i.text = true ∧ isMarkedItem target i = true ∧ Holds es i n

variable {target : Target} {es : List Entry} {e m : Entry}

/-- Lines that come later end nothing. -/
theorem staysInside_of_lt {n : ℕ} (h : ∀ j ∈ es, n < j.number) (k : ℕ) : StaysInside es k n := by
  intro j hj _ hn
  have := h j hj
  omega

theorem not_heldByMarked_of_lt {n : ℕ} (h : ∀ j ∈ es, n < j.number) :
    ¬ HeldByMarked target es n := by
  rintro ⟨i, hi, -, -, hn, -⟩
  have := h i hi
  omega

theorem staysInside_cons {k n : ℕ} : StaysInside (e :: es) k n ↔
    (LineKind.isItem e.text = true → e.number ≤ n → k < LineKind.indentation e.text) ∧
      StaysInside es k n := List.forall_mem_cons

/-- The first line holds what no item after it ends. -/
theorem holds_cons_self {n : ℕ} (h : ∀ j ∈ es, e.number < j.number) :
    Holds (e :: es) e n ↔ e.number ≤ n ∧ StaysInside es (LineKind.indentation e.text) n := by
  unfold Holds StaysInside
  constructor
  · rintro ⟨hn, hitems⟩
    exact ⟨hn, fun j hj hitem => hitems j (List.mem_cons_of_mem e hj) hitem (h j hj)⟩
  · rintro ⟨hn, hitems⟩
    refine ⟨hn, fun j hj hitem hlt => ?_⟩
    rcases List.mem_cons.mp hj with rfl | hj
    · omega
    · exact hitems j hj hitem

/-- A line in front changes nothing about what a later item holds. -/
theorem holds_cons_of_lt {i : Entry} {n : ℕ} (h : e.number < i.number) :
    Holds (e :: es) i n ↔ Holds es i n := by
  unfold Holds
  rw [List.forall_mem_cons, and_congr_right_iff]
  intro _
  refine and_iff_right_of_imp fun _ _ hlt => ?_
  omega

theorem heldByMarked_cons {n : ℕ} (h : ∀ j ∈ es, e.number < j.number) :
    HeldByMarked target (e :: es) n ↔
      (LineKind.isItem e.text = true ∧ isMarkedItem target e = true ∧ e.number ≤ n ∧
        StaysInside es (LineKind.indentation e.text) n) ∨ HeldByMarked target es n := by
  unfold HeldByMarked
  rw [List.exists_mem_cons_iff, holds_cons_self h]
  refine or_congr_right (exists_congr fun i => and_congr_right fun hi => ?_)
  rw [holds_cons_of_lt (h i hi)]

/-! ## Reading a list -/

/-- The indentation of the outermost excluded item that is open after a line, given the one before. -/
def hiddenAfter (target : Target) (hidden? : Option ℕ) (e : Entry) : Option ℕ :=
  if LineKind.isItem e.text = true ∧ ∀ k, hidden? = some k → LineKind.indentation e.text ≤ k then
    if isMarkedItem target e then some (LineKind.indentation e.text) else none
  else hidden?

/-- A line goes when an excluded item is open after it. -/
theorem itemLines_cons (target : Target) (hidden? : Option ℕ) (e : Entry) (es : List Entry) :
    itemLines target hidden? (e :: es) =
      (if (hiddenAfter target hidden? e).isSome then [e] else []) ++
        itemLines target (hiddenAfter target hidden? e) es := by
  rw [itemLines, hiddenAfter]
  by_cases hitem : LineKind.isItem e.text = true
  case neg => cases hidden? <;> simp [hitem]
  cases hidden? with
  | none => by_cases hmarked : isMarkedItem target e <;> simp [hitem, hmarked]
  | some k =>
    by_cases hinside : k < LineKind.indentation e.text
    · simp [hitem, hinside, not_le.mpr hinside]
    · by_cases hmarked : isMarkedItem target e <;> simp [hitem, hinside, not_lt.mp hinside, hmarked]

/-- **One line of a list.**  What is open after the line, together with the marked items that follow,
says of the line and of all later ones what was open before it, together with the marked items from
here on, says of them. -/
theorem hiddenAfter_iff (h : ∀ j ∈ es, e.number < j.number) (hidden? : Option ℕ) {n : ℕ}
    (hn : e.number ≤ n) :
    ((∃ k, hiddenAfter target hidden? e = some k ∧ StaysInside es k n) ∨
        HeldByMarked target es n) ↔
      (∃ k, hidden? = some k ∧ StaysInside (e :: es) k n) ∨ HeldByMarked target (e :: es) n := by
  simp only [staysInside_cons, heldByMarked_cons h, hn, true_imp_iff, true_and]
  rw [hiddenAfter]
  by_cases hitem : LineKind.isItem e.text = true
  case neg => simp [hitem]
  by_cases hends : ∀ k, hidden? = some k → LineKind.indentation e.text ≤ k
  · -- the item ends what was open, and opens something itself when it is marked
    have hclosed : ¬ ∃ k, hidden? = some k ∧ k < LineKind.indentation e.text ∧
        StaysInside es k n := by
      rintro ⟨k, hk, hlt, -⟩
      exact absurd (hends k hk) (not_le.mpr hlt)
    rw [if_pos ⟨hitem, hends⟩]
    by_cases hmarked : isMarkedItem target e = true <;> simp [hitem, hmarked, hclosed]
  · -- the item lies inside the open one, which ends no later than this one does
    rw [if_neg (by tauto)]
    push Not at hends
    obtain ⟨k, rfl, hlt⟩ := hends
    have houter : StaysInside es (LineKind.indentation e.text) n → StaysInside es k n :=
      fun hinner j hj hj' hjn => hlt.trans (hinner j hj hj' hjn)
    simp only [Option.some.injEq, exists_eq_left', hitem, hlt, true_imp_iff, true_and]
    tauto

/-- **The lines of excluded items.**  Inside an item indented by `hidden?` a line goes when nothing up
to it ends that item; and wherever it is, it goes when an excluded item holds it. -/
theorem mem_itemLines_iff (hes : (es.map Entry.number).Pairwise (· < ·)) (hidden? : Option ℕ) :
    m ∈ itemLines target hidden? es ↔ m ∈ es ∧
      ((∃ k, hidden? = some k ∧ StaysInside es k m.number) ∨
        HeldByMarked target es m.number) := by
  induction es generalizing hidden? with
  | nil => simp [itemLines]
  | cons e es ih =>
    rw [List.map_cons, List.pairwise_cons] at hes
    have hlater : ∀ j ∈ es, e.number < j.number :=
      fun j hj => hes.1 _ (List.mem_map_of_mem hj)
    rw [itemLines_cons, List.mem_append, ih hes.2, List.mem_cons]
    by_cases hm : m = e
    · subst hm
      have hnot : m ∉ es := fun hmem => lt_irrefl _ (hlater m hmem)
      rw [← hiddenAfter_iff hlater hidden? le_rfl]
      have hself : ∀ k, StaysInside es k m.number := staysInside_of_lt hlater
      simp [hnot, hself, not_heldByMarked_of_lt hlater, Option.isSome_iff_exists]
    · rw [or_iff_right (by split_ifs <;> simp [hm]), or_iff_right hm]
      refine and_congr_right fun hmem => ?_
      exact hiddenAfter_iff hlater hidden? (hlater m hmem).le

/-! ## The rule -/

/-- A line of a unit goes: it has the bare marker, the first line of the unit has the marker for the
whole unit, or an item of the list with the item marker or the bare one holds the line. -/
def Loses (target : Target) (u : ProseUnit) (m : Entry) : Prop :=
  Marker.has target .bare m.text = true ∨
  (u.kind = .paragraph ∧ ∃ first, u.entries.head? = some first ∧
    Marker.has target .paragraph first.text = true) ∨
  (u.kind = .list ∧ ∃ first, u.entries.head? = some first ∧
    Marker.has target .list first.text = true) ∨
  (u.kind = .list ∧ ∃ i ∈ u.entries, LineKind.isItem i.text = true ∧ i.number ≤ m.number ∧
    (Marker.has target .bare i.text = true ∨ Marker.has target .item i.text = true) ∧
    ¬ ∃ j ∈ u.entries, LineKind.isItem j.text = true ∧ i.number < j.number ∧
      j.number ≤ m.number ∧ LineKind.indentation j.text ≤ LineKind.indentation i.text)

theorem isMarkedWhole_iff {u : ProseUnit} {scope : Scope} :
    u.isMarkedWhole target scope = true ↔
      ∃ first, u.entries.head? = some first ∧ Marker.has target scope first.text = true := by
  unfold isMarkedWhole
  cases u.entries <;> simp

theorem mem_bareLines_iff : m ∈ bareLines target es ↔
    m ∈ es ∧ Marker.has target .bare m.text = true := by
  rw [bareLines, List.mem_filter]

theorem heldByMarked_iff {n : ℕ} : HeldByMarked target es n ↔
    ∃ i ∈ es, LineKind.isItem i.text = true ∧ i.number ≤ n ∧
      (Marker.has target .bare i.text = true ∨ Marker.has target .item i.text = true) ∧
      ¬ ∃ j ∈ es, LineKind.isItem j.text = true ∧ i.number < j.number ∧ j.number ≤ n ∧
        LineKind.indentation j.text ≤ LineKind.indentation i.text := by
  unfold HeldByMarked Holds
  simp only [isMarkedItem, Bool.or_eq_true, not_exists, not_and, not_le]
  refine exists_congr fun i => and_congr_right fun _ => ?_
  tauto

/-- **The lines that go** are those the rule takes. -/
theorem mem_excluded_iff {u : ProseUnit} (hu : (u.entries.map Entry.number).Pairwise (· < ·))
    (hm : m ∈ u.entries) : m ∈ u.excluded target ↔ u.Loses target m := by
  unfold excluded Loses
  cases hkind : u.kind with
  | paragraph =>
    rw [← isMarkedWhole_iff, ← isMarkedWhole_iff]
    dsimp only
    split_ifs with hwhole
    · simp [hm, hwhole]
    · simp [mem_bareLines_iff, hm, hwhole]
  | list =>
    rw [← isMarkedWhole_iff, ← isMarkedWhole_iff, ← heldByMarked_iff]
    dsimp only
    split_ifs with hwhole
    · simp [hm, hwhole]
    · rw [List.mem_append, mem_itemLines_iff hu, mem_bareLines_iff]
      simp [hm, hwhole, or_comm]

end ProseUnit

namespace Exclusion

variable {o : Outline} {target : Target} {ls : List Line} {m : Entry}

/-- A prose line is dropped exactly when the rule takes it from its unit. -/
theorem mem_dropped_iff_loses {u : ProseUnit}
    (hu : u ∈ Prose.units o (Entry.numbered 1 ls)) (hm : m ∈ u.entries) :
    m.number ∈ dropped o target ls ↔ u.Loses target m := by
  have hincreasing := Entry.increasing_numbered 1 ls
  have hnodup := Entry.nodup_of_increasing hincreasing
  have hsublist : u.entries.Sublist (Entry.numbered 1 ls) :=
    (List.sublist_flatten_of_mem (List.mem_map_of_mem hu)).trans
      (Prose.flatMap_units_sublist o _)
  obtain ⟨hmem, hfenced, -⟩ := Prose.mem_units hu hm
  rw [number_mem_dropped_iff hmem hfenced,
    ← ProseUnit.mem_excluded_iff (hincreasing.sublist (hsublist.map Entry.number)) hm]
  constructor
  · rintro ⟨v, hv, hmv⟩
    rwa [Prose.unit_unique hnodup hu hv hm (ProseUnit.mem_of_mem_excluded hmv)]
  · intro h
    exact ⟨u, hu, h⟩

/-- What is kept under the number of a prose line is the line without its markers. -/
theorem mem_keptLines_iff_of_isProse (hm : m ∈ Entry.numbered 1 ls)
    (hprose : Prose.isProse o m = true) (hdropped : m.number ∉ dropped o target ls)
    (hleft : allBlank (Marker.strip m.text) = false) (x : Line) :
    ⟨m.number, x⟩ ∈ keptLines o target ls ↔ x = Marker.strip m.text := by
  have hclean : clean o m = Marker.strip m.text := by rw [clean, if_pos hprose]
  rw [keptLines]
  constructor
  · intro h
    obtain ⟨f, hf, -, heq⟩ := exists_of_mem_collect h
    rw [Entry.mk.injEq] at heq
    obtain rfl := Entry.eq_of_number_eq hm hf heq.1
    rw [heq.2, hclean]
  · rintro rfl
    rw [← hclean]
    exact mem_collect hm (by simpa using hdropped) (by rw [hclean, hleft]) false true

/-- Nothing is kept under the number of a dropped line. -/
theorem notMem_keptLines_of_dropped {n : ℕ} (hn : n ∈ dropped o target ls) (x : Line) :
    ⟨n, x⟩ ∉ keptLines o target ls := by
  rw [keptLines]
  intro h
  obtain ⟨f, -, hdropped, heq⟩ := exists_of_mem_collect h
  rw [Entry.mk.injEq] at heq
  rw [← heq.1] at hdropped
  simp [hn] at hdropped

end Exclusion

/-- **Prose is filtered by its markers.**  A prose line belongs to a unit.  It is dropped exactly when
the rule takes it from its unit, and nothing is kept of it then; any other prose line of which
something is left without its markers is kept as just that. -/
theorem keptLines_prose {t : Text} {o : Outline} (ho : Outline.parse t = .ok o) (target : Target)
    {m : Entry} (hm : m ∈ Entry.numbered 1 (lines t)) (hprose : Prose.isProse o m = true) :
    (∃ u ∈ Prose.units o (Entry.numbered 1 (lines t)), m ∈ u.entries) ∧
      (∀ u ∈ Prose.units o (Entry.numbered 1 (lines t)), m ∈ u.entries →
        (m.number ∈ Exclusion.dropped o target (lines t) ↔ u.Loses target m)) ∧
      ∃ kept, keptLines t target = .ok kept ∧
        (m.number ∈ Exclusion.dropped o target (lines t) → ∀ x, ⟨m.number, x⟩ ∉ kept) ∧
        (m.number ∉ Exclusion.dropped o target (lines t) →
          allBlank (Marker.strip m.text) = false →
            ∀ x, ⟨m.number, x⟩ ∈ kept ↔ x = Marker.strip m.text) := by
  have hnodup := Entry.nodup_of_increasing (Entry.increasing_numbered 1 (lines t))
  refine ⟨(Prose.existsUnique_unit hnodup hm hprose).exists, ?_, _, by rw [keptLines, ho], ?_, ?_⟩
  · intro u hu hmu
    exact Exclusion.mem_dropped_iff_loses hu hmu
  · exact Exclusion.notMem_keptLines_of_dropped
  · exact Exclusion.mem_keptLines_iff_of_isProse hm hprose

/-- An item inside an excluded one, a line that goes on without indentation after a blank line and
goes with the outer item, and the next item, which stays without its marker. -/
theorem keptLines_prose_nested :
    let t := "- a %i\n  - b %\n\n  - c\nlazy\n- d &\n".toList
    let o : Outline := ⟨6, [], [⟨1, [], .implicit⟩]⟩
    let es : List Entry := [⟨1, "- a %i".toList⟩, ⟨2, "  - b %".toList⟩, ⟨3, []⟩, ⟨4, "  - c".toList⟩,
      ⟨5, "lazy".toList⟩, ⟨6, "- d &".toList⟩]
    let u : ProseUnit := ⟨.list, es⟩
    Outline.parse t = .ok o ∧ Prose.units o (Entry.numbered 1 (lines t)) = [u] ∧
      Exclusion.dropped o .doc (lines t) = [1, 2, 3, 4, 5, 2] ∧
      keptLines t .doc = .ok [⟨6, "- d".toList⟩] ∧
      (5 ∈ Exclusion.dropped o .doc (lines t) ↔ u.Loses .doc ⟨5, "lazy".toList⟩) ∧
      ∀ x, (⟨6, x⟩ : Entry) ∈ [(⟨6, "- d".toList⟩ : Entry)] ↔ x = "- d".toList := by
  intro t o es u
  have ho : Outline.parse t = .ok o := by decide +kernel
  have hunits : Prose.units o (Entry.numbered 1 (lines t)) = [u] := by decide +kernel
  have hdropped : Exclusion.dropped o .doc (lines t) = [1, 2, 3, 4, 5, 2] := by decide +kernel
  have hkept : keptLines t .doc = .ok [⟨6, "- d".toList⟩] := by decide +kernel
  obtain ⟨-, hlazy, -⟩ :=
    keptLines_prose ho .doc (m := ⟨5, "lazy".toList⟩) (by decide +kernel) (by decide +kernel)
  obtain ⟨-, -, kept, h, -, hnext⟩ :=
    keptLines_prose ho .doc (m := ⟨6, "- d &".toList⟩) (by decide +kernel) (by decide +kernel)
  rw [hkept] at h
  cases h
  refine ⟨ho, hunits, hdropped, hkept, hlazy u (by rw [hunits]; simp) (by decide +kernel), ?_⟩
  have hstripped : Marker.strip "- d &".toList = "- d".toList := by decide +kernel
  intro x
  exact hstripped ▸ hnext (by rw [hdropped]; decide) (by decide +kernel) x

end Literate

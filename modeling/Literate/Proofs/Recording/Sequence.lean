import Mathlib
import Literate.Proofs.DocumentFile
import Literate.Proofs.Recording.Neighbours

/-!
# Recording again and again

Output recorded for a block replaces what was recorded for it before, and where every block has a
name of its author's, output of one block does not touch the output of another.  So only the last
output of each block counts, and the order of the others does not.

Line numbers as names are left out of the second part: the output of one block moves the next one,
which then has another name.

* `recordAll`: outputs recorded one after the other; `lastOutput?` is the last one of a name.
* `recordAll_again`: recording for one block twice.
* `recordAll_swap`: recording for two blocks in both orders.
* `recordAll_perm`: recording once for each of several blocks, in any order.
* `recordAll_last`: what is left of any recordings are the last outputs.
-/

namespace Literate

open Text

/-- An output and the name of the block it is recorded for. -/
abbrev Recording := Text × Output

/-- Records outputs one after the other. -/
def recordAll (t : Text) : List Recording → Except Failure Text
  | [] => .ok t
  | (name, out) :: steps =>
    match record t name out with
    | .error e => .error e
    | .ok r => recordAll r.text steps

/-- The last output that is recorded for a name. -/
def lastOutput? (steps : List Recording) (name : Text) : Option Output := steps.reverse.lookup name

variable {t : Text} {o : Outline} {name name' : Text} {out out' : Output} {b c : Block}

/-! ## One record -/

theorem recordAll_cons {r : Recorded} (h : record t name out = .ok r) (steps : List Recording) :
    recordAll t ((name, out) :: steps) = recordAll r.text steps := by
  rw [recordAll, h]

theorem record_eq_ok (out : Output) {t' : Text} (ho : Outline.parse t = .ok o)
    (hb : o.findBlock? name = some b)
    (happly : (o.recordingEdit (lines t) b out).apply t = .ok t') :
    record t name out = .ok ⟨o.recordingEdit (lines t) b out, t'⟩ := by
  simp only [record, recordingEdit, ho, hb, happly]

/-- Output is recorded in the middle of a cut of the document. -/
theorem Cut.Follows.exists_record {items : List Item} {k : Cut (lines t) items}
    (hk : k.Follows b (o.attachedOutput? (lines t) b)) (ho : Outline.parse t = .ok o)
    (hb : o.findBlock? name = some b) (out : Output) :
    ∃ t' o', record t name out = .ok ⟨o.recordingEdit (lines t) b out, t'⟩ ∧
      k.HasOutput (o.attachedOutput? (lines t) b) out t' o' := by
  obtain ⟨t', o', h⟩ := k.exists_hasOutput (o.attachedOutput? (lines t) b) out
  refine ⟨t', o', record_eq_ok out ho hb ?_, h⟩
  rw [hk.recordingEdit_eq]
  exact h.applied

/-- A document in which every block has a name of its author's. -/
def Named (t : Text) (names : List Text) : Prop :=
  ∃ o, Outline.parse t = .ok o ∧ (∀ b ∈ o.blocks, b.info.name.isSome) ∧
    o.blocks.map Block.name = names

/-- Output can be recorded for every block, and the names stay. -/
theorem Named.exists_record {names : List Text} (h : Named t names) (hname : name ∈ names)
    (out : Output) : ∃ r, record t name out = .ok r ∧ Named r.text names := by
  obtain ⟨o, ho, hsome, rfl⟩ := h
  obtain ⟨b, hb⟩ := Outline.exists_findBlock? hname
  obtain ⟨items, k, hitems, hk⟩ := Outline.exists_cut ho (Outline.mem_of_findBlock? hb)
  obtain ⟨t', o', hrecord, hout⟩ := hk.exists_record ho hb out
  have hblocks := hout.blocks_eq hk (congrArg Outline.records hitems)
  refine ⟨_, hrecord, o', hout.parsed, ?_, ?_⟩
  · intro c hc
    rw [hblocks] at hc
    obtain ⟨d, hd, rfl⟩ := List.mem_map.mp hc
    exact hsome d hd
  · rw [hblocks, List.map_map]
    exact List.map_congr_left fun c hc => Block.name_relocate _ (hsome c hc)

theorem Named.exists_recordAll {names : List Text} {steps : List Recording} (h : Named t names)
    (hsteps : ∀ s ∈ steps, s.1 ∈ names) : ∃ u, recordAll t steps = .ok u := by
  induction steps generalizing t with
  | nil => exact ⟨t, rfl⟩
  | cons s steps ih =>
    obtain ⟨r, hr, hnamed⟩ := h.exists_record (hsteps s (by simp)) s.2
    rw [recordAll_cons hr]
    exact ih hnamed fun s' hs' => hsteps s' (by simp [hs'])

/-! ## One block twice -/

/-- **Recording again** replaces what was recorded. -/
theorem recordAll_again (ho : Outline.parse t = .ok o) (hb : o.findBlock? name = some b)
    (out out' : Output) (steps : List Recording) :
    recordAll t ((name, out) :: (name, out') :: steps) = recordAll t ((name, out') :: steps) := by
  obtain ⟨items, k, hitems, hk⟩ := Outline.exists_cut ho (Outline.mem_of_findBlock? hb)
  obtain ⟨u, o', hrecord, hout⟩ := hk.exists_record ho hb out
  obtain ⟨w, o'', hrecord', hout'⟩ := hk.exists_record ho hb out'
  obtain ⟨w', happly, happly'⟩ := Edit.apply_again Cut.isWhole_gap out.isWhole_region
    out'.isWhole_region hout.applied
  obtain rfl : w' = w := Except.ok.inj (happly'.symm.trans hout'.applied)
  -- what is replaced is the region of the first output
  have hedit : o'.recordingEdit (lines u) b out' =
      ⟨(k.front.length + 1 : ℤ) + (withEnds (Cut.gap (o.attachedOutput? (lines t) b))).length,
        (k.front.length + 1 : ℤ) + (withEnds (Cut.gap (o.attachedOutput? (lines t) b))).length +
          (withEnds out.region).length, out'.region⟩ := by
    rw [Outline.recordingEdit, hout.attachedOutput?_eq hk, ← length_lines, ← length_lines,
      Output.lines_region, FencedLines.length_lines]
    simp only [Cut.regionStart, Edit.mk.injEq, and_true]
    omega
  have hrecord₂ := record_eq_ok out' hout.parsed
    (hout.findBlock?_eq hk (congrArg Outline.records hitems) hb) (hedit ▸ happly)
  rw [recordAll_cons hrecord, recordAll_cons hrecord₂, recordAll_cons hrecord']

/-! ## Two blocks -/

/-- Output for two blocks, the first of which stands before the second. -/
theorem recordAll_swap_of_lt (ho : Outline.parse t = .ok o)
    (hnamed : ∀ b ∈ o.blocks, b.info.name.isSome) (hb : o.findBlock? name = some b)
    (hc : o.findBlock? name' = some c) (hlt : b.endLine < c.startLine) (out out' : Output)
    (steps : List Recording) :
    recordAll t ((name, out) :: (name', out') :: steps) =
      recordAll t ((name', out') :: (name, out) :: steps) := by
  have hb_mem := Outline.mem_of_findBlock? hb
  have hc_mem := Outline.mem_of_findBlock? hc
  have hb_proper := Outline.startLine_le_of_mem_blocks ho hb_mem
  have hc_proper := Outline.startLine_le_of_mem_blocks ho hc_mem
  obtain ⟨items, k, hitems, hk⟩ := Outline.exists_cut ho hb_mem
  obtain ⟨items', m, hitems', hm⟩ := Outline.exists_cut ho hc_mem
  replace hitems : o.records = items.filterMap Item.record? := congrArg Outline.records hitems
  replace hitems' : o.records = items'.filterMap Item.record? := congrArg Outline.records hitems'
  obtain ⟨u, p, hrecord, hu⟩ := hk.exists_record ho hb out
  obtain ⟨v, q, hrecord', hv⟩ := hm.exists_record ho hc out'
  -- the second block moves with what stands behind the first output
  have hafter : Item.record (.block c) ∈ k.after := by
    have hitem : Item.record (.block c) ∈ items := by
      rw [← Outline.mem_records_iff, ← hitems]
      exact Outline.mem_blocks_iff.mp hc_mem
    rcases hk.other_cases hitem (by rintro rfl; omega) with h | h
    · omega
    · exact h
  have hc_found : p.findBlock? name' =
      some (c.relocate (k.movedWith (o.attachedOutput? (lines t) b) out)) := by
    rw [hu.findBlock?_named hk hitems hnamed, hc, Option.map_some]
  have hc_edit := hu.recordingEdit_after ho hitems hk hafter out'
  -- the first block stays
  have hb_found : q.findBlock? name = some b := by
    have hfront := (m.startLine_le_of_mem_before hm.block_mem).2
    simp only [Record.endLine] at hfront
    rw [hv.findBlock?_named hm hitems' hnamed, hb, Option.map_some, Block.relocate,
      m.movedWith_of_le _ _ (by omega), m.movedWith_of_le _ _ (by omega)]
  have hb_edit := hv.recordingEdit_before ho hitems' hm hlt out
  have hle := hm.endLine_recordingEdit_le ho hitems' hlt out
  rw [hk.recordingEdit_eq] at hb_edit hle
  rw [hm.recordingEdit_eq] at hc_edit
  obtain ⟨w, hw, hw'⟩ := Edit.apply_comm (Cut.isWhole_gap.append out.isWhole_region)
    (Cut.isWhole_gap.append out'.isWhole_region) hu.applied hv.applied hle
  have hlength : ((withEnds (Cut.gap (o.attachedOutput? (lines t) b) ++ out.region)).length -
      ((k.front.length + k.middle.length + 1 : ℤ) - (k.front.length + 1)) : ℤ) =
      (lines (Cut.gap (o.attachedOutput? (lines t) b))).length + out.fencedLines.height -
        k.middle.length := by
    rw [← length_lines, lines_append Cut.isWhole_gap, Output.lines_region, List.length_append,
      FencedLines.length_lines]
    push_cast
    ring
  have hrecord₂ := record_eq_ok out' hu.parsed hc_found (by
    rw [hc_edit, ← hlength]
    exact hw)
  have hrecord₂' := record_eq_ok out hv.parsed hb_found (hb_edit ▸ hw')
  rw [recordAll_cons hrecord, recordAll_cons hrecord₂, recordAll_cons hrecord',
    recordAll_cons hrecord₂']

/-- **Output for two blocks** can be recorded in both orders. -/
theorem Named.recordAll_swap {names : List Text} (h : Named t names) (hname : name ∈ names)
    (hname' : name' ∈ names) (hne : name ≠ name') (out out' : Output) (steps : List Recording) :
    recordAll t ((name, out) :: (name', out') :: steps) =
      recordAll t ((name', out') :: (name, out) :: steps) := by
  obtain ⟨o, ho, hsome, rfl⟩ := h
  obtain ⟨b, hb⟩ := Outline.exists_findBlock? hname
  obtain ⟨c, hc⟩ := Outline.exists_findBlock? hname'
  rcases Outline.blocks_trichotomy ho (Outline.mem_of_findBlock? hb) (Outline.mem_of_findBlock? hc)
    with rfl | hlt | hlt
  · exact absurd ((Outline.name_of_findBlock? hb).symm.trans (Outline.name_of_findBlock? hc)) hne
  · exact recordAll_swap_of_lt ho hsome hb hc hlt out out' steps
  · exact (recordAll_swap_of_lt ho hsome hc hb hlt out' out steps).symm

/-! ## Any recordings -/

/-- Recordings for different blocks can be made in any order. -/
theorem recordAll_perm {steps steps' : List Recording} (hperm : steps.Perm steps')
    (hnodup : (steps.map Prod.fst).Nodup) {names : List Text} (hnames : ∀ s ∈ steps, s.1 ∈ names) :
    ∀ {t : Text}, Named t names → recordAll t steps = recordAll t steps' := by
  induction hperm with
  | nil => intros; rfl
  | cons s _ ih =>
    intro t h
    obtain ⟨r, hr, hnamed⟩ := h.exists_record (hnames s (by simp)) s.2
    rw [recordAll_cons hr, recordAll_cons hr]
    exact ih (List.nodup_cons.mp hnodup).2 (fun s' hs' => hnames s' (by simp [hs'])) hnamed
  | swap s s' steps =>
    intro t h
    have hne : s'.1 ≠ s.1 := by
      rw [List.map_cons, List.nodup_cons, List.map_cons, List.mem_cons, not_or] at hnodup
      exact hnodup.1.1
    exact h.recordAll_swap (hnames s' (by simp)) (hnames s (by simp)) hne _ _ _
  | trans hperm₁ _ ih₁ ih₂ =>
    intro t h
    exact (ih₁ hnodup hnames h).trans (ih₂ ((hperm₁.map Prod.fst).nodup hnodup)
      (fun s hs => hnames s (hperm₁.mem_iff.mpr hs)) h)

/-- The last recording for each name. -/
def lastRecordings : List Recording → List Recording
  | [] => []
  | s :: steps =>
    if s.1 ∈ steps.map Prod.fst then lastRecordings steps else s :: lastRecordings steps

theorem lastOutput?_cons (s : Recording) (steps : List Recording) (name : Text) :
    lastOutput? (s :: steps) name =
      (lastOutput? steps name).or (if name = s.1 then some s.2 else none) := by
  rw [lastOutput?, lastOutput?, List.reverse_cons, List.lookup_append]
  congr 1
  by_cases h : name = s.1
  · simp [List.lookup, h]
  · simp [List.lookup, h, beq_eq_false_iff_ne.mpr h]

theorem lastOutput?_eq_none_iff {steps : List Recording} {name : Text} :
    lastOutput? steps name = none ↔ name ∉ steps.map Prod.fst := by
  induction steps with
  | nil => simp [lastOutput?]
  | cons s steps ih =>
    rw [lastOutput?_cons, Option.or_eq_none_iff, ih, List.map_cons, List.mem_cons, not_or, and_comm]
    simp

theorem mem_lastRecordings_iff {steps : List Recording} {name : Text} {out : Output} :
    (name, out) ∈ lastRecordings steps ↔ lastOutput? steps name = some out := by
  induction steps with
  | nil => simp [lastRecordings, lastOutput?]
  | cons s steps ih =>
    rw [lastRecordings, lastOutput?_cons]
    split_ifs with hlater hname hname
    · obtain ⟨out', hout'⟩ := Option.ne_none_iff_exists'.mp
        (mt lastOutput?_eq_none_iff.mp (not_not.mpr hlater))
      subst hname
      rw [ih, hout', Option.some_or]
    · rw [ih, Option.or_none]
    · subst hname
      rw [lastOutput?_eq_none_iff.mpr hlater, Option.none_or, List.mem_cons, ih,
        lastOutput?_eq_none_iff.mpr hlater]
      simp [Prod.ext_iff, eq_comm]
    · rw [List.mem_cons, ih, Option.or_none]
      simp [Prod.ext_iff, hname]

theorem lastRecordings_subset (steps : List Recording) : ∀ s ∈ lastRecordings steps, s ∈ steps := by
  induction steps with
  | nil => simp [lastRecordings]
  | cons s steps ih =>
    intro s' hs'
    rw [lastRecordings] at hs'
    split_ifs at hs'
    · exact List.mem_cons_of_mem _ (ih s' hs')
    · rcases List.mem_cons.mp hs' with rfl | hs'
      · exact List.mem_cons_self
      · exact List.mem_cons_of_mem _ (ih s' hs')

theorem nodup_lastRecordings (steps : List Recording) :
    ((lastRecordings steps).map Prod.fst).Nodup := by
  induction steps with
  | nil => simp [lastRecordings]
  | cons s steps ih =>
    rw [lastRecordings]
    split_ifs with hlater
    · exact ih
    · rw [List.map_cons, List.nodup_cons]
      refine ⟨fun hmem => hlater ?_, ih⟩
      obtain ⟨s', hs', heq⟩ := List.mem_map.mp hmem
      exact heq ▸ List.mem_map_of_mem (lastRecordings_subset steps s' hs')

/-- A recording does not count when another one for its block follows. -/
theorem Named.recordAll_cons_of_mem {names : List Text} {s : Recording} {steps : List Recording}
    (hs : s.1 ∈ names) (hsteps : ∀ s ∈ steps, s.1 ∈ names) (hlater : s.1 ∈ steps.map Prod.fst) :
    ∀ {t : Text}, Named t names → recordAll t (s :: steps) = recordAll t steps := by
  induction steps with
  | nil => simp at hlater
  | cons s' steps ih =>
    intro t h
    by_cases hname : s.1 = s'.1
    · obtain ⟨o, ho, -, rfl⟩ := h
      obtain ⟨b, hb⟩ := Outline.exists_findBlock? hs
      have hagain := recordAll_again ho hb s.2 s'.2 steps
      rwa [show (s.1, s'.2) = s' from Prod.ext hname rfl] at hagain
    · have hs' := hsteps s' (by simp)
      obtain ⟨r, hr, hnamed⟩ := h.exists_record hs' s'.2
      rw [List.map_cons, List.mem_cons] at hlater
      rw [show recordAll t (s :: s' :: steps) = _ from h.recordAll_swap hs hs' hname s.2 s'.2 steps,
        recordAll_cons hr, recordAll_cons hr]
      exact ih (fun s hs => hsteps s (by simp [hs])) (hlater.resolve_left hname) hnamed

/-- What is left of any recordings are the last ones. -/
theorem Named.recordAll_eq_lastRecordings {names : List Text} {steps : List Recording}
    (hsteps : ∀ s ∈ steps, s.1 ∈ names) :
    ∀ {t : Text}, Named t names → recordAll t steps = recordAll t (lastRecordings steps) := by
  induction steps with
  | nil => intros; rfl
  | cons s steps ih =>
    intro t h
    have hrest : ∀ s ∈ steps, s.1 ∈ names := fun s hs => hsteps s (by simp [hs])
    have hs := hsteps s (by simp)
    rw [lastRecordings]
    split_ifs with hlater
    · rw [h.recordAll_cons_of_mem hs hrest hlater]
      exact ih hrest h
    · obtain ⟨r, hr, hnamed⟩ := h.exists_record hs s.2
      rw [show recordAll t (s :: steps) = _ from recordAll_cons hr steps,
        show recordAll t (s :: lastRecordings steps) = _ from
          recordAll_cons hr (lastRecordings steps)]
      exact ih hrest hnamed

/-- Recordings with the same last outputs give the same document. -/
theorem Named.recordAll_congr {names : List Text} {steps steps' : List Recording}
    (h : Named t names) (hsteps : ∀ s ∈ steps, s.1 ∈ names) (hsteps' : ∀ s ∈ steps', s.1 ∈ names)
    (hlast : ∀ name, lastOutput? steps name = lastOutput? steps' name) :
    recordAll t steps = recordAll t steps' := by
  have hperm : (lastRecordings steps).Perm (lastRecordings steps') := by
    refine (List.perm_ext_iff_of_nodup (nodup_lastRecordings steps).of_map
      (nodup_lastRecordings steps').of_map).mpr fun s => ?_
    rw [mem_lastRecordings_iff, mem_lastRecordings_iff, hlast]
  rw [h.recordAll_eq_lastRecordings hsteps, h.recordAll_eq_lastRecordings hsteps']
  exact recordAll_perm hperm (nodup_lastRecordings steps)
    (fun s hs => hsteps s (lastRecordings_subset steps s hs)) h

/-- **Only the last output of each block counts.**  In every document that can be read, output
recorded for a block replaces what was recorded for it before.  Where every block has a name of its
author's, the order in which output is recorded for two blocks does not matter, and recordings with
the same last outputs give the same document, whatever their order and number. -/
theorem recordAll_last (ho : Outline.parse t = .ok o) :
    (∀ name ∈ o.blocks.map Block.name, ∀ out out' : Output, ∃ u,
      recordAll t [(name, out), (name, out')] = .ok u ∧ recordAll t [(name, out')] = .ok u) ∧
    ((∀ b ∈ o.blocks, b.info.name.isSome) →
      (∀ name ∈ o.blocks.map Block.name, ∀ name' ∈ o.blocks.map Block.name, name ≠ name' →
        ∀ out out' : Output, ∃ u, recordAll t [(name, out), (name', out')] = .ok u ∧
          recordAll t [(name', out'), (name, out)] = .ok u) ∧
      ∀ steps steps' : List Recording, (∀ s ∈ steps ++ steps', s.1 ∈ o.blocks.map Block.name) →
        (∀ name, lastOutput? steps name = lastOutput? steps' name) →
        ∃ u, recordAll t steps = .ok u ∧ recordAll t steps' = .ok u) := by
  refine ⟨fun name hname out out' => ?_, fun hsome => ⟨?_, ?_⟩⟩
  · obtain ⟨b, hb⟩ := Outline.exists_findBlock? hname
    obtain ⟨items, k, -, hk⟩ := Outline.exists_cut ho (Outline.mem_of_findBlock? hb)
    obtain ⟨u, -, hrecord, -⟩ := hk.exists_record ho hb out'
    have hlast : recordAll t [(name, out')] = .ok u := recordAll_cons hrecord []
    exact ⟨u, (recordAll_again ho hb out out' []).trans hlast, hlast⟩
  · intro name hname name' hname' hne out out'
    have h : Named t (o.blocks.map Block.name) := ⟨o, ho, hsome, rfl⟩
    have hnames : ∀ s ∈ [(name, out), (name', out')], s.1 ∈ o.blocks.map Block.name := by
      simp only [List.mem_cons, List.not_mem_nil, or_false, forall_eq_or_imp, forall_eq]
      exact ⟨hname, hname'⟩
    obtain ⟨u, hu⟩ := h.exists_recordAll hnames
    exact ⟨u, hu, (h.recordAll_swap hname hname' hne out out' []).symm.trans hu⟩
  · intro steps steps' hnames hlast
    have h : Named t (o.blocks.map Block.name) := ⟨o, ho, hsome, rfl⟩
    have hsteps : ∀ s ∈ steps, s.1 ∈ o.blocks.map Block.name :=
      fun s hs => hnames s (List.mem_append_left _ hs)
    have hsteps' : ∀ s ∈ steps', s.1 ∈ o.blocks.map Block.name :=
      fun s hs => hnames s (List.mem_append_right _ hs)
    obtain ⟨u, hu⟩ := h.exists_recordAll hsteps
    exact ⟨u, hu, (h.recordAll_congr hsteps hsteps' hlast).symm.trans hu⟩

/-- Two blocks with nothing between them, the last line without a newline. -/
theorem recordAll_last_adjacent :
    let t := "```sh a\n1\n```\n```sh b\n2\n```".toList
    let a : Text := ['a']
    let b : Text := ['b']
    let o : Outline := ⟨6, [.block ⟨1, 3, "```".toList, ⟨"sh".toList, some a, none, [], [], false,
      false⟩, [['1']]⟩, .block ⟨4, 6, "```".toList, ⟨"sh".toList, some b, none, [], [], false,
      false⟩, [['2']]⟩], [⟨1, [], .implicit⟩]⟩
    let u := "```sh a\n1\n```\n\n```output\nz\n```\n".toList ++
      "```sh b\n2\n```\n\n```output\ny\n```\n".toList
    Outline.parse t = .ok o ∧ (∀ c ∈ o.blocks, c.info.name.isSome) ∧
      recordAll t [(a, .text ['x']), (b, .text ['y']), (a, .text ['z'])] = .ok u ∧
      recordAll t [(b, .text ['y']), (a, .text ['z'])] = .ok u := by
  intro t a b o u
  have ho : Outline.parse t = .ok o := by decide +kernel
  have hsome : ∀ c ∈ o.blocks, c.info.name.isSome := by decide +kernel
  have hu : recordAll t [(a, .text ['x']), (b, .text ['y']), (a, .text ['z'])] = .ok u := by
    decide +kernel
  obtain ⟨w, hw, hw'⟩ := ((recordAll_last ho).2 hsome).2
    [(a, .text ['x']), (b, .text ['y']), (a, .text ['z'])] [(b, .text ['y']), (a, .text ['z'])]
    (by decide +kernel) (fun name => by
      by_cases hname : name = a
      · simp [lastOutput?, hname]
      · simp [lastOutput?, List.lookup, beq_eq_false_iff_ne.mpr hname])
  exact ⟨ho, hsome, hu, hw'.trans (hw.symm.trans hu)⟩

end Literate

import Mathlib
import Literate.Proofs.Exclusion.Preservation

/-!
# Excluding twice

What exclusion leaves has nothing to exclude, so a second exclusion keeps all its lines.  Whether it
also writes the same text is a matter of the end: a newline is put behind the kept lines when the
document ends with one, but never behind an empty text.  So one text does not survive a second
exclusion, the lone newline, which is one empty line.

* `Exclusion.putTogether`: lines as they are written back.
* `Exclusion.putTogether_lines`: reading what was written and writing it again.
* `Exclusion.exclude_of_clean`: excluding from a text without markers.
* `Exclusion.exists_isCleanLayout`: what is kept has no markers.
* `exclude_exclude`: a second exclusion changes a lone newline and nothing else.
* `exclude_exclude_lone_marker`: a document of which a lone newline is left.
-/

namespace Literate

open Text

namespace Exclusion

/-! ## Writing lines back -/

/-- Lines with newlines between them, and one behind them when they are `ended` and not all of the
text is empty. -/
def putTogether (ended : Bool) (ls : List Line) : Text :=
  if !(join ['\n'] ls).isEmpty && ended then join ['\n'] ls ++ ['\n'] else join ['\n'] ls

/-- Without carriage returns only the end of the document matters to how lines are written back. -/
theorem joinKept_eq {document : Text} (h : '\r' ∉ document) (kept : List Entry) :
    joinKept document kept = putTogether (document.getLast? == some '\n') (kept.map Entry.text) := by
  simp [joinKept, putTogether, occursIn_eq_false h]

theorem putTogether_nil (ended : Bool) : putTogether ended [] = [] := rfl

/-- Written back with an end, lines are all ended, unless only one newline would be written. -/
theorem putTogether_true {ls : List Line} (h : ls ≠ []) :
    putTogether true ls =
      if ls.flatMap (· ++ ['\n']) = ['\n'] then [] else ls.flatMap (· ++ ['\n']) := by
  rw [putTogether, ← join_append_newline h, Bool.and_true]
  cases join ['\n'] ls with
  | nil => rfl
  | cons c t => simp

theorem mem_putTogether {ended : Bool} {ls : List Line} {c : Char}
    (h : c ∈ putTogether ended ls) : c = '\n' ∨ ∃ l ∈ ls, c ∈ l := by
  by_cases hne : ls = []
  · rw [hne, putTogether_nil] at h
    cases h
  · have hmem : c ∈ join ['\n'] ls ++ ['\n'] := by
      rw [putTogether] at h
      split_ifs at h
      · exact h
      · exact List.mem_append_left _ h
    rw [join_append_newline hne] at hmem
    obtain ⟨l, hl, hc⟩ := List.mem_flatMap.mp hmem
    rcases List.mem_append.mp hc with hc | hc
    · exact .inr ⟨l, hl, hc⟩
    · exact .inl (List.mem_singleton.mp hc)

/-- Ended lines are written back as they are, unless they are a lone newline. -/
theorem putTogether_lines_ended {ls : List Line} (hne : ls ≠ [])
    (h : ∀ l ∈ ls, '\n' ∉ l ∧ l.getLast? ≠ some '\r') {t : Text}
    (ht : t = ls.flatMap (· ++ ['\n'])) :
    lines t = ls ∧ putTogether (t.getLast? == some '\n') ls = if t = ['\n'] then [] else t := by
  have hlast : t.getLast? = some '\n' := by
    rw [ht, ← join_append_newline hne, List.getLast?_concat]
  rw [hlast, beq_self_eq_true, putTogether_true hne, ht]
  exact ⟨lines_flatMap h, rfl⟩

/-- **Writing twice.**  What was written back has the same lines, but perhaps for an empty last one,
and it is written back as it is, unless it is a lone newline. -/
theorem putTogether_lines (ended : Bool) {ls : List Line}
    (h : ∀ l ∈ ls, '\n' ∉ l ∧ l.getLast? ≠ some '\r') :
    ∃ ms, lines (putTogether ended ls) = ms ∧ (ls = ms ∨ ls = ms ++ [[]]) ∧
      putTogether ((putTogether ended ls).getLast? == some '\n') ms =
        if putTogether ended ls = ['\n'] then [] else putTogether ended ls := by
  rcases List.eq_nil_or_concat' ls with rfl | ⟨ms, l, rfl⟩
  · exact ⟨[], rfl, .inl rfl, rfl⟩
  have hjoin := join_concat ms l
  have hms := List.forall_mem_append.mp h
  have hl : '\n' ∉ l ∧ l.getLast? ≠ some '\r' := hms.2 l (by simp)
  by_cases hempty : join ['\n'] (ms ++ [l]) = []
  · -- one empty line, of which nothing is written
    rw [hempty] at hjoin
    obtain ⟨hnil, rfl⟩ := List.append_eq_nil_iff.mp hjoin.symm
    obtain rfl : ms = [] := by
      cases ms with
      | nil => rfl
      | cons m ms => simp at hnil
    cases ended <;> exact ⟨[], rfl, .inr rfl, rfl⟩
  cases ended with
  | true =>
    have hput : putTogether true (ms ++ [l]) = (ms ++ [l]).flatMap (· ++ ['\n']) := by
      rw [putTogether, ← join_append_newline (by simp)]
      simp [hempty]
    obtain ⟨hlines, hagain⟩ := putTogether_lines_ended (by simp) h hput
    exact ⟨_, hlines, .inl rfl, hagain⟩
  | false =>
    have hput : putTogether false (ms ++ [l]) = ms.flatMap (· ++ ['\n']) ++ l := by
      rw [← hjoin, putTogether, Bool.and_false, if_neg Bool.false_ne_true]
    by_cases hle : l = []
    · -- the newline before the empty last line ends the line before
      subst hle
      rw [List.append_nil] at hput
      have hne : ms ≠ [] := by
        rintro rfl
        exact hempty rfl
      obtain ⟨hlines, hagain⟩ := putTogether_lines_ended hne hms.1 hput
      exact ⟨_, hlines, .inr rfl, hagain⟩
    · have hlast : (ms.flatMap (· ++ ['\n']) ++ l).getLast? ≠ some '\n' := by
        rw [List.getLast?_append_of_ne_nil _ hle]
        exact fun hlast => hl.1 (List.mem_of_getLast? hlast)
      rw [hput]
      refine ⟨_, lines_flatMap_append hms.1 hl hle, .inl rfl, ?_⟩
      rw [beq_eq_false_iff_ne.mpr hlast, hput, if_neg]
      intro heq
      rw [heq] at hlast
      exact hlast rfl

/-! ## What is written -/

section

variable {t : Text} {o : Outline} {target : Target}

/-- Kept lines are made of lines. -/
theorem mem_of_mem_keptLines {l : Line} (hl : l ∈ (keptLines o target (lines t)).map Entry.text)
    {c : Char} (hc : c ∈ l) : ∃ m ∈ lines t, c ∈ m := by
  obtain ⟨e, he, rfl⟩ := List.mem_map.mp hl
  obtain ⟨-, m, hm, hfront⟩ := (keptLines_fronts o target (lines t)).2 e he
  exact ⟨m, List.mem_of_getElem? hm, hfront.subset hc⟩

/-- Kept lines have no line ends. -/
theorem notMem_of_mem_keptLines (hreturn : '\r' ∉ t) {l : Line}
    (hl : l ∈ (keptLines o target (lines t)).map Entry.text) : '\n' ∉ l ∧ '\r' ∉ l := by
  constructor
  · intro hc
    obtain ⟨m, hm, hcm⟩ := mem_of_mem_keptLines hl hc
    exact newline_notMem_of_mem_lines hm hcm
  · intro hc
    obtain ⟨m, hm, hcm⟩ := mem_of_mem_keptLines hl hc
    exact hreturn (mem_of_mem_lines hm hcm)

theorem exclude_eq (hreturn : '\r' ∉ t) (ho : Outline.parse t = .ok o) :
    exclude t target = .ok (putTogether (t.getLast? == some '\n')
      ((keptLines o target (lines t)).map Entry.text)) := by
  simp only [exclude, Literate.keptLines, ho]
  rw [joinKept_eq hreturn]

/-- A document with a clean layout has one without a blank last line. -/
theorem IsCleanLayout.of_concat_blank {ls : List Line} {l : Line} {gs : List (ℕ × FencedLines)}
    (h : IsCleanLayout (ls ++ [l]) gs) (hl : allBlank l = true) : IsCleanLayout ls gs :=
  ⟨h.layout.of_concat_blank hl, h.openers⟩

/-- Excluding from a text without markers writes its lines back. -/
theorem exclude_of_clean {gs : List (ℕ × FencedLines)} (h : IsCleanLayout (lines t) gs)
    (hreturn : '\r' ∉ t) (target : Target) :
    exclude t target = .ok (putTogether (t.getLast? == some '\n') (lines t)) := by
  obtain ⟨o, ho, hrecords⟩ := Outline.parse_of_layout h.layout
  rw [exclude_eq hreturn ho, h.keptLines_eq hrecords target, Entry.map_text_numbered]

/-- The kept lines have a clean layout. -/
theorem exists_isCleanLayout (ho : Outline.parse t = .ok o) (target : Target) :
    ∃ gs, IsCleanLayout ((keptLines o target (lines t)).map Entry.text) gs := by
  obtain ⟨gs, hlayout, hrecords⟩ := Outline.exists_layout ho
  obtain ⟨gs', hlayout', himage⟩ := exists_layout_keptLines target hlayout hrecords
  have hback : List.Forall₂ (fun q p => Marker.find q.2.fence.rest = [] ∧
      IsImage (keptLines o target (lines t)) p q) gs' _ :=
    .flip (himage.imp fun p q h => ⟨h.find_eq_nil, h⟩)
  exact ⟨gs', hlayout', ((List.forall₂_and_left _ _).mp hback).1⟩

end

end Exclusion

/-- **Excluding twice.**  From every document that can be read and has no carriage return, a second
exclusion for the same target takes nothing away, unless the first one leaves a lone newline; of that
nothing is left. -/
theorem exclude_exclude {t : Text} {o : Outline} (hreturn : '\r' ∉ t)
    (ho : Outline.parse t = .ok o) (target : Target) :
    ∃ r, exclude t target = .ok r ∧
      exclude r target = .ok (if r = ['\n'] then [] else r) := by
  have hexclude : exclude t target = .ok (Exclusion.putTogether (t.getLast? == some '\n')
      ((Exclusion.keptLines o target (lines t)).map Entry.text)) := Exclusion.exclude_eq hreturn ho
  have hchars : ∀ l ∈ (Exclusion.keptLines o target (lines t)).map Entry.text,
      '\n' ∉ l ∧ '\r' ∉ l := fun l => Exclusion.notMem_of_mem_keptLines hreturn
  obtain ⟨gs, hclean⟩ := Exclusion.exists_isCleanLayout ho target
  generalize (Exclusion.keptLines o target (lines t)).map Entry.text = kept at *
  obtain ⟨ms, hms, hcases, hput⟩ := Exclusion.putTogether_lines (t.getLast? == some '\n')
    fun l hl => ⟨(hchars l hl).1, fun hlast => (hchars l hl).2 (List.mem_of_getLast? hlast)⟩
  have hreturn' : '\r' ∉ Exclusion.putTogether (t.getLast? == some '\n') kept := by
    intro hc
    rcases Exclusion.mem_putTogether hc with hc | ⟨l, hl, hc⟩
    · cases hc
    · exact (hchars l hl).2 hc
  have hclean' : Exclusion.IsCleanLayout ms gs := by
    rcases hcases with rfl | rfl
    · exact hclean
    · exact hclean.of_concat_blank rfl
  rw [← hms] at hclean'
  refine ⟨_, hexclude, ?_⟩
  rw [Exclusion.exclude_of_clean hclean' hreturn', hms, hput]

/-- A heading stays, a marked line goes, and what is left is left alone. -/
theorem exclude_exclude_heading :
    let t := "# T %\n\nold %\nnew &\n\n".toList
    let o : Outline := ⟨5, [], [⟨1, "T %".toList, .heading⟩]⟩
    let r := "# T %\n\nnew\n\n".toList
    '\r' ∉ t ∧ Outline.parse t = .ok o ∧ exclude t .doc = .ok r ∧ exclude r .doc = .ok r := by
  intro t o r
  have hreturn : '\r' ∉ t := by decide +kernel
  have ho : Outline.parse t = .ok o := by decide +kernel
  have hr : exclude t .doc = .ok r := by decide +kernel
  obtain ⟨r', h, hagain⟩ := exclude_exclude hreturn ho .doc
  rw [hr] at h
  cases h
  exact ⟨hreturn, ho, hr, hagain⟩

/-- An empty line and a line that is nothing but a marker for the other target: a lone newline is
left, and a second exclusion leaves nothing. -/
theorem exclude_exclude_lone_marker :
    let t := "\n&".toList
    '\r' ∉ t ∧ Outline.parse t = .ok ⟨2, [], [⟨1, [], .implicit⟩]⟩ ∧
      exclude t .doc = .ok ['\n'] ∧ exclude ['\n'] .doc ≠ exclude t .doc := by
  decide +kernel

end Literate

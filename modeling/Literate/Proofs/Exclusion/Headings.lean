import Mathlib
import Literate.Proofs.Exclusion.CleanDocument
import Literate.Proofs.Outline.Headings

/-!
# Headings under exclusion

Exclusion tells headings and breaks by the single line, the outline by the lines around it.  Heading
lines, breaks and the underlines that are tests of their own are left alone.  The text of an
underlined heading is prose to exclusion, and so is an underline of one or two hyphens: they lose
their markers and go with the unit they are in.

* `Exclusion.mem_keptLines_iff`: the lines outside fences that are kept as they are.
* `keptLines_headings`: what becomes of the lines of headings and breaks.
* `keptLines_headings_underlined`: a heading that loses its text.
-/

namespace Literate

open Text

theorem Entry.mem_numbered_one_iff {ls : List Line} {e : Entry} :
    e ∈ numbered 1 ls ↔ lineAt? ls e.number = some e.text := by
  rw [mem_numbered_iff]
  cases e.number with
  | zero => simp [lineAt?]
  | succ n => simp [lineAt?]

/-- A number belongs to one line. -/
theorem Entry.eq_of_number_eq {ls : List Line} {e f : Entry} (he : e ∈ numbered 1 ls)
    (hf : f ∈ numbered 1 ls) (h : e.number = f.number) : e = f := by
  rw [mem_numbered_one_iff] at he hf
  rw [h, hf, Option.some.injEq] at he
  cases e
  cases f
  rw [mk.injEq]
  exact ⟨h, he.symm⟩

theorem Marker.strip_eq_self_iff {t : Text} : strip t = t ↔ find t = [] := by
  constructor
  · intro h
    rw [← h, find_strip]
  · exact strip_of_find_eq_nil

namespace Exclusion

variable {o : Outline} {target : Target} {ls : List Line} {e : Entry}

/-- A numbered line is dropped exactly when a prose unit gives up that very line. -/
theorem number_mem_dropped_iff (he : e ∈ Entry.numbered 1 ls) (hn : o.isFenced e.number = false) :
    e.number ∈ dropped o target ls ↔
      ∃ u ∈ Prose.units o (Entry.numbered 1 ls), e ∈ u.excluded target := by
  rw [mem_dropped_unfenced hn]
  constructor
  · rintro ⟨u, hu, f, hf, hnumber⟩
    have hmem := (Prose.mem_units hu (ProseUnit.mem_of_mem_excluded hf)).1
    obtain rfl := Entry.eq_of_number_eq hmem he hnumber
    exact ⟨u, hu, hf⟩
  · rintro ⟨u, hu, he⟩
    exact ⟨u, hu, e, he, rfl⟩

/-- A line is kept as it is exactly when it is not dropped and cleaning changes nothing. -/
theorem mem_keptLines_of_text (he : e ∈ Entry.numbered 1 ls) (hb : allBlank e.text = false) :
    e ∈ keptLines o target ls ↔ e.number ∉ dropped o target ls ∧ clean o e = e.text := by
  rw [keptLines]
  constructor
  · intro h
    obtain ⟨f, hf, hdropped, heq⟩ := exists_of_mem_collect h
    obtain rfl := Entry.eq_of_number_eq he hf (by rw [heq])
    exact ⟨by simpa using hdropped, (congrArg Entry.text heq).symm⟩
  · rintro ⟨hdropped, hclean⟩
    have h : ⟨e.number, clean o e⟩ ∈ keptLines o target ls :=
      mem_collect he (by simpa using hdropped) (by rw [hclean, hb]) false true
    rwa [hclean] at h

/-- **Lines outside fences.**  A line that is not blank is kept as it is exactly when it is a heading
line, a break or an underline of its own, or when it has no markers and no prose unit gives it up. -/
theorem mem_keptLines_iff (hproper : ∀ b ∈ o.blocks, b.startLine ≤ b.endLine)
    (he : e ∈ Entry.numbered 1 ls) (hn : o.isFenced e.number = false)
    (hb : allBlank e.text = false) :
    e ∈ keptLines o target ls ↔ Prose.isStructural e.text = true ∨
      Marker.find e.text = [] ∧
        ∀ u ∈ Prose.units o (Entry.numbered 1 ls), e ∉ u.excluded target := by
  have hprose : Prose.isProse o e = !Prose.isStructural e.text := by
    simp [Prose.isProse, hn, hb]
  rw [mem_keptLines_of_text he hb, number_mem_dropped_iff he hn,
    clean_of_isFenced_eq_false hn hproper, hprose]
  cases hs : Prose.isStructural e.text with
  | true =>
    have hunits : ¬∃ u ∈ Prose.units o (Entry.numbered 1 ls), e ∈ u.excluded target := by
      rintro ⟨u, hu, he⟩
      have hmember := (Prose.mem_units hu (ProseUnit.mem_of_mem_excluded he)).2.2
      simp [hprose, hs, hb] at hmember
    simp [hunits]
  | false => simp [Marker.strip_eq_self_iff, and_comm]

end Exclusion

/-- **What becomes of headings and breaks.**  The lines that belong to them are lines of the
document.  One is kept under its number as it is if it is a heading line, a break or an underline of
its own; any other exactly when it has no markers and is in no unit that gives it up. -/
theorem keptLines_headings {t : Text} {o : Outline} (ho : Outline.parse t = .ok o)
    (target : Target) :
    ∃ kept, keptLines t target = .ok kept ∧
      ∀ n ∈ Outline.headingLines t, ∃ l, lineAt? (lines t) n = some l ∧
        (⟨n, l⟩ ∈ kept ↔ Prose.isStructural l = true ∨
          Marker.find l = [] ∧
            ∀ u ∈ Prose.units o (Entry.numbered 1 (lines t)), ⟨n, l⟩ ∉ u.excluded target) := by
  obtain ⟨gs, hlayout, hrecords⟩ := Outline.exists_layout ho
  refine ⟨_, by rw [keptLines, ho], fun n hn => ?_⟩
  obtain ⟨hfenced, l, hl, hb⟩ := Outline.exists_line_of_mem_headingLines ho hn
  have he : ⟨n, l⟩ ∈ Entry.numbered 1 (lines t) := Entry.mem_numbered_one_iff.mpr hl
  exact ⟨l, hl, Exclusion.mem_keptLines_iff (Layout.block_startLine_le hrecords) he hfenced hb⟩

/-- A heading line and a break stay; of two underlined headings one loses a marker and the other goes
as a whole, with its underline. -/
theorem keptLines_headings_kinds :
    let t := "# A %\n\nB &\n===\n\nC %p\n--\n\n--- ---\n".toList
    let o : Outline := ⟨9, [], [⟨1, "A %".toList, .heading⟩, ⟨3, "B &".toList, .heading⟩,
      ⟨9, [], .break⟩]⟩
    let kept : List Entry := [⟨1, "# A %".toList⟩, ⟨2, []⟩, ⟨3, ['B']⟩, ⟨4, "===".toList⟩, ⟨5, []⟩,
      ⟨9, "--- ---".toList⟩]
    Outline.parse t = .ok o ∧ Outline.headingLines t = [1, 3, 4, 6, 7, 9] ∧
      keptLines t .doc = .ok kept ∧
      ∀ n ∈ Outline.headingLines t, ∃ l, lineAt? (lines t) n = some l ∧
        (⟨n, l⟩ ∈ kept ↔ Prose.isStructural l = true ∨
          Marker.find l = [] ∧
            ∀ u ∈ Prose.units o (Entry.numbered 1 (lines t)), ⟨n, l⟩ ∉ u.excluded .doc) := by
  intro t o kept
  have ho : Outline.parse t = .ok o := by decide +kernel
  have hkept : keptLines t .doc = .ok kept := by decide +kernel
  obtain ⟨kept', h, hlines⟩ := keptLines_headings ho .doc
  rw [hkept] at h
  cases h
  exact ⟨ho, by decide +kernel, hkept, hlines⟩

/-- The first line belongs to a heading, and it is not kept. -/
theorem keptLines_headings_underlined :
    let t := "Title %\n===\n".toList
    Outline.parse t = .ok ⟨2, [], [⟨1, "Title %".toList, .heading⟩]⟩ ∧
      Outline.headingLines t = [1, 2] ∧ lineAt? (lines t) 1 = some "Title %".toList ∧
      keptLines t .doc = .ok [⟨2, "===".toList⟩] := by
  decide +kernel

end Literate

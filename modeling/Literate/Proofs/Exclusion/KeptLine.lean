import Mathlib
import Literate.Exclusion.Basic
import Literate.Proofs.Marker
import Literate.Proofs.Outline.Reading

/-!
# Lines without their markers

A line that stays loses only its trailing markers.  What is taken off holds no character of a fence,
so prose does not become a fence line, and an opening fence stays one of the same length.

* `Marker.ofLine?_strip`: prose without its markers is no fence line.
* `Info.shown`: what an info says but for its markers.
* `Exclusion.ofLine?_cleanOpener`: an opening fence without its markers opens the same fence.
* `FencedLines.exists_cleaned`: a fenced range whose opening fence lost its markers.
-/

namespace Literate

open Text

namespace Fence

theorem Proper.of_prefix {f : Fence} (h : f.Proper) {rest : Text} (hr : rest <+: f.rest) :
    Proper { f with rest := rest } := by
  obtain ⟨gone, hgone⟩ := hr
  refine ⟨h.indent_le, h.three_le, ?_, fun hk hmem => ?_⟩
  · cases rest with
    | nil => simp
    | cons c rest =>
      have := h.head_rest
      rw [← hgone] at this
      exact this
  · refine h.backtick_notMem hk ?_
    rw [← hgone]
    exact List.mem_append_left _ hmem

/-- A fence line stays one when text without fence characters is put behind it. -/
theorem ofLine?_append {l gone : Text} {f : Fence} (h : ofLine? l = some f)
    (hgone : Marker.IsTail gone) :
    ofLine? (l ++ gone) = some { f with rest := f.rest ++ gone } := by
  obtain ⟨hproper, rfl⟩ := ofLine?_eq_some_iff.mp h
  refine ofLine?_eq_some_iff.mpr ⟨⟨hproper.indent_le, hproper.three_le, ?_, ?_⟩, ?_⟩
  · intro hhead
    cases hr : f.rest with
    | nil =>
      rw [hr, List.nil_append] at hhead
      exact hgone f.kind (List.mem_of_mem_head? hhead)
    | cons c rest =>
      have := hproper.head_rest
      rw [hr] at this hhead
      exact this hhead
  · intro hk hmem
    rcases List.mem_append.mp hmem with hm | hm
    · exact hproper.backtick_notMem hk hm
    · exact hgone .backtick hm
  · simp [written, marker]

/-- A fence line that ends with text without fence characters is one without that text. -/
theorem ofLine?_of_append {l gone : Text} {f : Fence} (h : ofLine? (l ++ gone) = some f)
    (hgone : Marker.IsTail gone) :
    ∃ rest, f.rest = rest ++ gone ∧ ofLine? l = some { f with rest := rest } := by
  obtain ⟨hproper, hl⟩ := ofLine?_eq_some_iff.mp h
  rw [written, ← List.append_assoc] at hl
  -- the run of fence characters ends before the text that has none
  obtain ⟨rest, hline, hrest⟩ : ∃ rest, l = List.replicate f.indent ' ' ++ f.marker ++ rest ∧
      f.rest = rest ++ gone := by
    rcases List.append_eq_append_iff.mp hl with ⟨a, hfront, ha⟩ | ⟨a, hline, ha⟩
    · rcases List.eq_nil_or_concat' a with rfl | ⟨b, c, rfl⟩
      · exact ⟨[], by simpa using hfront.symm, by simpa using ha.symm⟩
      · have hlast := congrArg List.getLast? hfront
        obtain ⟨n, hn⟩ : ∃ n, f.length = n + 1 :=
          ⟨f.length - 1, by have := hproper.three_le; omega⟩
        rw [marker, hn, List.replicate_succ', ← List.append_assoc, ← List.append_assoc,
          List.getLast?_concat, List.getLast?_concat, Option.some.injEq] at hlast
        have hmem : f.kind.char ∈ gone := by
          rw [ha, hlast]
          simp
        exact absurd hmem (hgone f.kind)
    · exact ⟨a, hline, ha⟩
  refine ⟨rest, hrest, ofLine?_eq_some_iff.mpr ⟨hproper.of_prefix ⟨gone, hrest.symm⟩, ?_⟩⟩
  rw [hline, List.append_assoc]
  rfl

end Fence

/-- Prose without its markers is no fence line. -/
theorem Marker.ofLine?_strip {l : Line} (h : Fence.ofLine? l = none) :
    Fence.ofLine? (strip l) = none := by
  obtain ⟨gone, hgone, hl⟩ := exists_eq_strip_append l
  cases hf : Fence.ofLine? (strip l) with
  | none => rfl
  | some f =>
    have := Fence.ofLine?_append hf hgone
    rw [← hl, h] at this
    cases this

namespace Info

/-- The info without its markers. -/
def shown (i : Info) : Info := { i with hiddenInDoc := false, hiddenInSlides := false }

/-- Apart from markers only the text before them is read. -/
theorem shown_parse {s t : Text} (h : trim (Marker.strip s) = trim (Marker.strip t)) :
    (parse s).shown = (parse t).shown := by
  simp only [parse, shown, h]

theorem parse_of_find_eq_nil {t : Text} (h : Marker.find t = []) : parse t = (parse t).shown := by
  simp [parse, shown, h]

end Info

namespace Exclusion

theorem cleanOpener_of_find_eq_nil {l : Line} {f : Fence} (h : Fence.ofLine? l = some f)
    (hf : Marker.find f.rest = []) : cleanOpener l = l := by
  simp [cleanOpener, h, hf]

/-- An opening fence without its markers opens the same fence and has no markers. -/
theorem ofLine?_cleanOpener {l : Line} {f : Fence} (h : Fence.ofLine? l = some f) :
    cleanOpener l <+: l ∧
      ∃ rest, Fence.ofLine? (cleanOpener l) = some { f with rest := rest } ∧
        Marker.find rest = [] ∧ trim rest = trim (Marker.strip f.rest) := by
  obtain ⟨hproper, hl⟩ := Fence.ofLine?_eq_some_iff.mp h
  by_cases hf : Marker.find f.rest = []
  · rw [cleanOpener_of_find_eq_nil h hf]
    exact ⟨List.prefix_rfl, f.rest, h, hf, by rw [Marker.strip_of_find_eq_nil hf]⟩
  · have hopener : cleanOpener l =
        trimEnd (List.replicate f.indent ' ' ++ f.marker ++ Marker.strip f.rest) := by
      simp [cleanOpener, h, hf]
    have hprefix : trimEnd (Marker.strip f.rest) <+: f.rest :=
      (trimEnd_isPrefix _).trans (Marker.strip_isPrefix _)
    have hwritten : cleanOpener l =
        Fence.written { f with rest := trimEnd (Marker.strip f.rest) } := by
      obtain ⟨n, hn⟩ : ∃ n, f.length = n + 1 := ⟨f.length - 1, by have := hproper.three_le; omega⟩
      have hmarker : f.marker = List.replicate n f.kind.char ++ [f.kind.char] := by
        rw [Fence.marker, hn, List.replicate_succ']
      have htrim := trimEnd_append f.kind.isBlank_char
        (List.replicate f.indent ' ' ++ List.replicate n f.kind.char) (Marker.strip f.rest)
      rw [hopener, hmarker]
      simpa [Fence.written, Fence.marker, hn, List.replicate_succ'] using htrim
    refine ⟨?_, _, Fence.ofLine?_eq_some_iff.mpr ⟨hproper.of_prefix hprefix, hwritten⟩, ?_,
      trim_trimEnd _⟩
    · rw [hopener, hl, Fence.written, ← List.append_assoc]
      exact (trimEnd_isPrefix _).trans
        ((List.prefix_append_right_inj _).mpr (Marker.strip_isPrefix _))
    · rw [Marker.find_trimEnd, Marker.find_strip]

end Exclusion

/-- A fenced range whose opening fence lost its markers. -/
theorem FencedLines.exists_cleaned (g : FencedLines) :
    ∃ (g' : FencedLines) (rest : Text), g'.opener = Exclusion.cleanOpener g.opener ∧
      g'.inner = g.inner ∧ g'.closer = g.closer ∧ g'.fence = { g.fence with rest := rest } ∧
      Marker.find rest = [] ∧ Info.parse g'.fence.info = (Info.parse g.fence.info).shown := by
  obtain ⟨-, rest, hopens, hfind, hrest⟩ := Exclusion.ofLine?_cleanOpener g.opens
  refine ⟨⟨Exclusion.cleanOpener g.opener, g.inner, g.closer, _, g.closing, hopens, g.keepsOpen,
    g.ends, g.closes, g.bare⟩, rest, rfl, rfl, rfl, rfl, hfind, ?_⟩
  have hinfo : Marker.find (trim rest) = [] := by rw [Marker.find_trim, hfind]
  calc Info.parse (trim rest) = (Info.parse (trim rest)).shown := Info.parse_of_find_eq_nil hinfo
    _ = (Info.parse (trim g.fence.rest)).shown := Info.shown_parse (by
      rw [Marker.trim_strip_trim, Marker.trim_strip_trim, Marker.strip_of_find_eq_nil hfind, hrest])

end Literate

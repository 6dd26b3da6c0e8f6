import Mathlib
import Literate.Output
import Literate.Proofs.Outline.Reading
import Literate.Proofs.Text.Lines

/-!
# The region that records output

Whatever the output is, its region is one fenced range: no line of the payload is a fence line that
could have to do with the fence around it, because a line's run of backticks after blanks is
counted when the fence is made, and the fence is longer.

* `Output.keepsOpen_payload`: the lines of the payload leave the fence open.
* `Output.fencedLines`: the region as a fenced range.
* `Output.lines_region`, `Output.withEnds_region`: its lines.
-/

namespace Literate

open Text

namespace Output

/-! ## Backticks at the front of a line -/

/-- A backtick fence counts in full at the front of its line. -/
theorem length_le_leadingTicks {g : Fence} (hk : g.kind = .backtick) (hg : g.Proper) (t : Text) :
    g.length ≤ leadingTicks (g.written ++ t) := by
  have hblank : ∀ c ∈ List.replicate g.indent ' ', isBlank c = true := by
    intro c hc
    rw [(List.mem_replicate.mp hc).2]
    decide
  have hhead : (g.marker ++ (g.rest ++ t)).dropWhile isBlank = g.marker ++ (g.rest ++ t) := by
    obtain ⟨n, hn⟩ : ∃ n, g.length = n + 1 := ⟨g.length - 1, by have := hg.three_le; omega⟩
    rw [Fence.marker, hn, List.replicate_succ, List.cons_append,
      List.dropWhile_cons_of_neg (by simp [g.kind.isBlank_char])]
  have htick : ∀ c ∈ g.marker, (c == '\x60') = true := by
    intro c hc
    rw [(List.mem_replicate.mp hc).2, hk]
    rfl
  rw [leadingTicks, trimStart, Fence.written, List.append_assoc, List.append_assoc,
    List.dropWhile_append_of_pos hblank, hhead, List.takeWhile_append_of_pos htick,
    List.length_append, Fence.marker, List.length_replicate]
  omega

theorem le_longestTicks {payload l : Text} (h : l ∈ pieces '\n' payload) :
    leadingTicks l ≤ longestTicks payload := by
  have : ∀ ls : List Text, l ∈ ls → leadingTicks l ≤ (ls.map leadingTicks).foldr Nat.max 0 := by
    intro ls
    induction ls with
    | nil => intro h; cases h
    | cons m ls ih =>
      intro h
      rw [List.map_cons, List.foldr_cons]
      rcases List.mem_cons.mp h with rfl | h
      · exact Nat.le_max_left _ _
      · exact (ih h).trans (Nat.le_max_right _ _)
  exact this _ h

/-! ## The fence -/

/-- The length of the fence around a payload. -/
def fenceLength (payload : Text) : ℕ := Nat.max 3 (longestTicks payload + 1)

/-- The fence that opens the region. -/
def opening (payload : Text) : Fence := ⟨0, .backtick, fenceLength payload, outputInfo⟩

/-- The fence that closes the region. -/
def closing (payload : Text) : Fence := ⟨0, .backtick, fenceLength payload, []⟩

theorem three_le_fenceLength (payload : Text) : 3 ≤ fenceLength payload := Nat.le_max_left _ _

theorem opening_proper (payload : Text) : (opening payload).Proper :=
  ⟨by simp [opening], three_le_fenceLength payload, by simp [opening, outputInfo, FenceKind.char],
    by simp [opening, outputInfo]⟩

theorem closing_proper (payload : Text) : (closing payload).Proper :=
  ⟨by simp [closing], three_le_fenceLength payload, by simp [closing], by simp [closing]⟩

theorem written_closing (payload : Text) : (closing payload).written = fenceFor payload := by
  simp [Fence.written, Fence.marker, closing, fenceFor, fenceLength, FenceKind.char]

/-- **The payload cannot close its region.**  Every line of it leaves the fence open. -/
theorem keepsOpen_payload (payload : Text) {l : Line} (h : l ∈ lines (payload ++ ['\n'])) :
    (opening payload).KeepsOpen l := by
  rw [lines_append_newline] at h
  obtain ⟨p, hp, rfl⟩ := List.mem_map.mp h
  intro g hg
  obtain ⟨hproper, hwritten⟩ := Fence.ofLine?_eq_some_iff.mp hg
  by_cases hk : g.kind = .backtick
  · have hticks : g.length ≤ leadingTicks p := by
      rcases dropLast?_cases '\r' p with hp | hp
      · have := length_le_leadingTicks hk hproper []
        rwa [← hwritten, List.append_nil, ← hp] at this
      · have := length_le_leadingTicks hk hproper ['\r']
        rwa [← hwritten, ← hp] at this
    have hlong := le_longestTicks hp
    have hfence : longestTicks payload + 1 ≤ fenceLength payload := Nat.le_max_right _ _
    have : ¬ fenceLength payload ≤ g.length := by omega
    simp [Fence.closes, opening, this]
  · simp [Fence.closes, opening, hk]

/-- The region of an output as a fenced range. -/
def fencedLines (o : Output) : FencedLines where
  opener := fenceFor o.payload ++ outputInfo
  inner := lines (o.payload ++ ['\n'])
  closer := fenceFor o.payload
  fence := opening o.payload
  closing := closing o.payload
  opens := (opening_proper _).ofLine?_written
  keepsOpen _ h := keepsOpen_payload _ h
  ends := by rw [← written_closing]; exact (closing_proper _).ofLine?_written
  closes := by simp [Fence.closes, opening, closing]
  bare := rfl

/-- The record of the region is an output region. -/
theorem record_fencedLines (o : Output) (n : ℕ) :
    o.fencedLines.record n = .output ⟨n + 1, n + o.fencedLines.height⟩ := by
  have : (opening o.payload).info = outputInfo := by simp only [opening, Fence.info]; decide
  simp [FencedLines.record, Scan.recordOf, fencedLines, this]

/-! ## Lines of the region -/

theorem newline_notMem_fenceFor (payload : Text) : '\n' ∉ fenceFor payload := by
  intro h
  have := (List.mem_replicate.mp h).2
  simp at this

theorem region_eq (o : Output) :
    o.region = (fenceFor o.payload ++ outputInfo) ++
      '\n' :: ((o.payload ++ ['\n']) ++ (fenceFor o.payload ++ '\n' :: [])) := by
  have : "output\n".toList = outputInfo ++ ['\n'] := by decide
  simp [region, this]

theorem isWhole_region (o : Output) : IsWhole o.region := .append_newline _

/-- The lines of the region: the opening fence, the payload, the closing fence. -/
theorem withEnds_region (o : Output) :
    withEnds o.region = (fenceFor o.payload ++ outputInfo ++ ['\n']) ::
      (withEnds (o.payload ++ ['\n']) ++ [fenceFor o.payload ++ ['\n']]) := by
  have hopener : '\n' ∉ fenceFor o.payload ++ outputInfo := by
    rw [List.mem_append, not_or]
    exact ⟨newline_notMem_fenceFor _, by decide⟩
  rw [region_eq, withEnds_line hopener, withEnds_append (.append_newline _),
    withEnds_line (newline_notMem_fenceFor _)]
  rfl

theorem lines_region (o : Output) : lines o.region = o.fencedLines.lines := by
  have hopener : (fenceFor o.payload ++ outputInfo).getLast? ≠ some '\r' := by
    simp [outputInfo]
  have hcloser : (fenceFor o.payload).getLast? ≠ some '\r' := by
    intro h
    have := (List.mem_replicate.mp (List.mem_of_getLast? h)).2
    simp at this
  rw [lines, withEnds_region, List.map_cons, List.map_append, content_append_newline,
    dropLast?_of_getLast?_ne hopener, List.map_singleton, content_append_newline,
    dropLast?_of_getLast?_ne hcloser]
  rfl

end Output

end Literate

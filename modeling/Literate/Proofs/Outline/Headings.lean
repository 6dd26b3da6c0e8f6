import Mathlib
import Literate.Proofs.Outline.FenceStructure

/-!
# The lines of headings and breaks

A heading line and a break are one line.  An underlined heading is a paragraph and the line under it,
and only that line tells: the lines of the paragraph belong to a heading in hindsight.

* `Outline.headingLines`: the lines that belong to headings and breaks.
* `Scan.Follows`: the open paragraph is the end of what was read.
* `Outline.exists_line_of_mem_headingLines`: such a line is not blank and in no record.
-/

namespace Literate

open Text

namespace Scan

/-- Where the heading or break starts that the next line completes: at the paragraph that it
underlines, or at itself. -/
def headingStart? (s : Scan) (l : Line) : Option ℕ :=
  match s.mode with
  | .fenced .. => none
  | .prose open? =>
    if (Fence.ofLine? l).isSome || allBlank l then none
    else
      match open?.filter fun p =>
        !p.inList && (LineKind.isUnderline1 l || LineKind.isUnderline2 l) with
      | some p => some p.startLine
      | none => if LineKind.isBreak l || LineKind.isHeading l then some (s.count + 1) else none

/-- The lines of the heading or break that the next line completes. -/
def headingLines (s : Scan) (l : Line) : List ℕ :=
  match s.headingStart? l with
  | none => []
  | some first => List.range' first (s.count + 2 - first)

/-- The lines of the headings and breaks that are completed from a state on. -/
def headingLinesFrom (s : Scan) : List Line → List ℕ
  | [] => []
  | l :: ls =>
    s.headingLines l ++
      match s.step l with
      | .error _ => []
      | .ok next => headingLinesFrom next.1 ls

end Scan

/-- The lines of a document that belong to headings and breaks. -/
def Outline.headingLines (t : Text) : List ℕ := Scan.start.headingLinesFrom (lines t)

/-- A top-level heading line is a heading line. -/
theorem LineKind.isHeading_of_headingTitle? {l : Line} {title : Text}
    (h : headingTitle? l = some title) : isHeading l = true := by
  rw [headingTitle?] at h
  split at h
  · rename_i r hr
    split_ifs at h with hend
    have hhash : r.takeWhile (· == '#') = [] ∧ r.dropWhile (· == '#') = r := by
      cases r with
      | nil => exact ⟨rfl, rfl⟩
      | cons c r =>
        have hc : (c == '#') = false := by
          rw [beq_eq_false_iff_ne]
          rintro rfl
          cases hend
        simp [hc]
    simp [isHeading, hr, hhash.1, hhash.2, hend]
  · cases h

namespace Scan

variable {s : Scan} {open? : Option Paragraph} {l : Line} {front : List Line} {n : ℕ}

/-! ## One line -/

/-- A heading or a break starts at the line that completes it or at the open paragraph. -/
def StartsAt (s : Scan) (open? : Option Paragraph) (n : ℕ) : Prop :=
  n = s.count + 1 ∨ ∃ p, open? = some p ∧ n = p.startLine

/-- What a line that is no fence line completes, and what it does: nothing, and it finishes no slide;
a heading or a break that is a slide; a heading that is none. -/
inductive HeadingStep (s : Scan) (open? : Option Paragraph) (l : Line) :
    Option ℕ → Scan × Option Item → Prop
  | nothing (next? : Option Paragraph) : HeadingStep s open? l none (s.skip (s.count + 1) next?)
  | titled (hl : allBlank l = false) {start : ℕ} (h : s.StartsAt open? start) (title : Text)
      (kind : SlideKind) :
      HeadingStep s open? l (some start) (slide (s.count + 1) ⟨start, title, kind⟩)
  | untitled (hl : allBlank l = false) {start : ℕ} (h : s.StartsAt open? start) :
      HeadingStep s open? l (some start) (s.skip (s.count + 1) none)

theorem stepText_heading (s : Scan) (open? : Option Paragraph) (hl : allBlank l = false) :
    HeadingStep s open? l
      (if LineKind.isBreak l || LineKind.isHeading l then some (s.count + 1) else none)
      (s.stepText (s.count + 1) open? l) := by
  have hown : s.StartsAt open? (s.count + 1) := .inl rfl
  rw [stepText.eq_def]
  cases LineKind.isBreak l with
  | true => exact .titled hl hown _ _
  | false =>
    cases ht : LineKind.headingTitle? l with
    | some title =>
      rw [LineKind.isHeading_of_headingTitle? ht]
      exact .titled hl hown _ _
    | none =>
      cases LineKind.isHeading l with
      | true => exact .untitled hl hown
      | false =>
        cases LineKind.isQuote l with
        | true => exact .nothing none
        | false => cases open? <;> exact .nothing _

theorem stepProse_heading (hs : s.mode = .prose open?) (hf : Fence.ofLine? l = none) :
    HeadingStep s open? l (s.headingStart? l) (s.stepProse (s.count + 1) open? l) := by
  rw [stepProse.eq_def, headingStart?, hs, hf]
  cases hl : allBlank l with
  | true => exact .nothing none
  | false =>
    have htext := stepText_heading s open? hl
    cases open? with
    | none => exact htext
    | some p =>
      have hopen : s.StartsAt (some p) p.startLine := .inr ⟨p, rfl, rfl⟩
      dsimp only
      rw [Option.filter_some]
      cases hp : p.inList with
      | true => simpa using htext
      | false =>
        cases LineKind.isUnderline1 l with
        | true => exact .titled hl hopen _ _
        | false =>
          cases LineKind.isUnderline2 l with
          | true => exact .untitled hl hopen
          | false => simpa using htext

/-! ## The open paragraph -/

/-- The state follows the lines read: it counts them, and an open paragraph is their end. -/
structure Follows (s : Scan) (front : List Line) : Prop where
  count_eq : s.count = front.length
  paragraph : ∀ p, s.mode = .prose (some p) →
    ∃ pre, front = pre ++ p.lines ∧ p.startLine = pre.length + 1 ∧
      ∀ l ∈ p.lines, allBlank l = false

theorem follows_none (h : n = front.length) (title : Option Text) :
    Follows ⟨n, .prose none, title⟩ front :=
  ⟨h, fun p hp => by cases hp⟩

/-- A line outside fences is followed. -/
theorem ProseStep.follows {next : Scan × Option Item} (h : ProseStep s (s.count + 1) l open? next)
    (hs : s.mode = .prose open?) (hf : s.Follows front) : next.1.Follows (front ++ [l]) := by
  have hcount : s.count + 1 = (front ++ [l]).length := by
    rw [hf.count_eq, List.length_append, List.length_singleton]
  cases h with
  | blank | underline1 | underline2 | rule | heading | aside => exact follows_none hcount _
  | begins hl =>
    refine ⟨hcount, fun p hp => ?_⟩
    cases hp
    exact ⟨front, rfl, by rw [hf.count_eq], by simpa using hl⟩
  | @«extends» p hl =>
    refine ⟨hcount, fun q hq => ?_⟩
    cases hq
    obtain ⟨pre, rfl, hstart, hlines⟩ := hf.paragraph p hs
    refine ⟨pre, by rw [List.append_assoc], hstart, ?_⟩
    exact List.forall_mem_append.mpr ⟨hlines, by simpa using hl⟩

/-- From where a heading or a break can start, no line is settled and none is blank. -/
theorem StartsAt.exists_line {start : ℕ} (h : s.StartsAt open? start) (hs : s.mode = .prose open?)
    (ha : s.Anchored) (hf : s.Follows front) (hl : allBlank l = false) (hn : start ≤ n)
    (hn' : n ≤ s.count + 1) :
    s.settled < n ∧ ∃ m, lineAt? (front ++ [l]) n = some m ∧ allBlank m = false := by
  have hcount := hf.count_eq
  have hsettled := settled_le_count ha
  rcases Nat.lt_or_ge s.count n with hlt | hle
  · -- the line that completes it
    obtain rfl : n = front.length + 0 + 1 := by omega
    exact ⟨by omega, l, lineAt?_append 0, hl⟩
  · obtain ⟨p, rfl, rfl⟩ : ∃ p, open? = some p ∧ start = p.startLine := by
      rcases h with h | h
      · omega
      · exact h
    obtain ⟨pre, rfl, hstart, hlines⟩ := hf.paragraph p hs
    have hpre : s.settled = pre.length := by simp [settled, hs, hstart]
    obtain ⟨k, rfl⟩ : ∃ k, n = pre.length + k + 1 := ⟨n - pre.length - 1, by omega⟩
    rw [List.length_append] at hcount
    refine ⟨by omega, p.lines[k], ?_, hlines _ (List.getElem_mem _)⟩
    rw [List.append_assoc, lineAt?_append, List.getElem?_append_left (by omega),
      List.getElem?_eq_getElem]

/-- The lines that a line completes are not blank.  None of them is settled before it, all are
after it. -/
theorem exists_line_of_mem_headingLines (hs : s.mode = .prose open?) (ha : s.Anchored)
    (hfollows : s.Follows front) (hf : Fence.ofLine? l = none) (hn : n ∈ s.headingLines l) :
    s.settled < n ∧ n ≤ (s.stepProse (s.count + 1) open? l).1.settled ∧
      ∃ m, lineAt? (front ++ [l]) n = some m ∧ allBlank m = false := by
  have hspec := stepProse_heading hs hf
  rw [headingLines] at hn
  generalize s.headingStart? l = start? at hn hspec
  generalize s.stepProse (s.count + 1) open? l = next at hspec
  cases hspec with
  | nothing => cases hn
  | titled hl h | untitled hl h =>
    rw [List.mem_range'_1] at hn
    obtain ⟨hlt, hline⟩ := h.exists_line hs ha hfollows hl hn.1 (by omega)
    exact ⟨hlt, by simp only [slide, skip, settled_none]; omega, hline⟩

/-! ## All lines -/

theorem headingLinesFrom_line (hs : s.mode = .prose open?) (l : Line) (ls : List Line) :
    s.headingLinesFrom (l :: ls) =
      s.headingLines l ++ (s.stepProse (s.count + 1) open? l).1.headingLinesFrom ls := by
  rw [headingLinesFrom, step_prose hs]

theorem headingLinesFrom_inner {f g : Fence} {first : ℕ} {title : Option Text} {inner : List Line}
    (hin : ∀ l ∈ inner, f.KeepsOpen l) {closer : Line} (hg : Fence.ofLine? closer = some g)
    (hcl : f.closes g = true) (hi : g.info = []) (ls : List Line) :
    ∀ (body : List Line) (n : ℕ),
      headingLinesFrom ⟨n, .fenced first f body, title⟩ (inner ++ closer :: ls) =
        headingLinesFrom ⟨n + inner.length + 1, .prose none, title⟩ ls := by
  induction inner with
  | nil =>
    intro body n
    have hstep : step ⟨n, .fenced first f body, title⟩ closer = _ := stepFenced_closes hg hcl hi
    rw [List.nil_append, headingLinesFrom, hstep]
    rfl
  | cons l inner ih =>
    intro body n
    rw [List.forall_mem_cons] at hin
    have hstep : step ⟨n, .fenced first f body, title⟩ l = _ := stepFenced_keepsOpen hin.1
    rw [List.cons_append, headingLinesFrom, hstep, List.length_cons,
      show n + (inner.length + 1) + 1 = n + 1 + inner.length + 1 by omega]
    exact ih hin.2 _ _

/-- No line of a fenced range belongs to a heading or a break. -/
theorem headingLinesFrom_range (hs : s.mode = .prose open?) (g : FencedLines) (ls : List Line) :
    s.headingLinesFrom (g.lines ++ ls) =
      headingLinesFrom ⟨s.count + g.height, .prose none, s.title⟩ ls := by
  have hopener : s.headingLines g.opener = [] := by
    simp [headingLines, headingStart?, hs, g.opens]
  rw [FencedLines.lines, List.cons_append, headingLinesFrom_line hs, hopener,
    stepProse_fence _ _ _ g.opens, List.append_assoc, List.singleton_append, List.nil_append,
    headingLinesFrom_inner g.keepsOpen g.ends g.closes g.bare, FencedLines.height,
    show s.count + 1 + g.inner.length + 1 = s.count + (g.inner.length + 2) by omega]

end Scan

namespace Reading

variable {s t : Scan} {ls : List Line} {items : List Item}

/-- The lines of headings and breaks lie after what was settled before; they are not blank, and no
record holds one. -/
theorem exists_line_of_mem_headingLines (h : Reading s ls t items) :
    ∀ {front : List Line}, s.Anchored → s.Follows front → ∀ n ∈ s.headingLinesFrom ls,
      s.settled < n ∧ (∃ l, lineAt? (front ++ ls) n = some l ∧ allBlank l = false) ∧
        ∀ r ∈ items.filterMap Item.record?, r.holds n = false := by
  induction h with
  | nil =>
    intro front ha hf n hn
    cases hn
  | @line s t open? l ls items hs hl rest ih =>
    intro front ha hfollows n hn
    have hspec := Scan.stepProse_spec s (s.count + 1) open? hl
    obtain ⟨ha', hle, -⟩ := hspec.settled_le hs ha
    rw [List.filterMap_append, Scan.stepProse_records s _ open? hl, List.nil_append,
      ← List.singleton_append, ← List.append_assoc]
    rw [Scan.headingLinesFrom_line hs] at hn
    rcases List.mem_append.mp hn with hn | hn
    · obtain ⟨hlt, hafter, m, hm, hb⟩ := Scan.exists_line_of_mem_headingLines hs ha hfollows hl hn
      refine ⟨hlt, ⟨m, lineAt?_append_left hm ls, hb⟩, fun r hr => ?_⟩
      -- records still to come start after all that is settled
      have habove := (rest.settled_le ha').2.2.above _ (Outline.mem_records_iff.mp hr)
      rw [Bool.eq_false_iff, ne_eq, Record.holds_iff]
      simp only [Item.firstLine] at habove
      omega
    · obtain ⟨hlt, hrest⟩ := ih ha' (hspec.follows hs hfollows) n hn
      exact ⟨by omega, hrest⟩
  | @range s t open? ls items hs g rest ih =>
    intro front ha hfollows n hn
    rw [Scan.headingLinesFrom_range hs] at hn
    have hcount : s.count + g.height = (front ++ g.lines).length := by
      rw [hfollows.count_eq, List.length_append, FencedLines.length_lines]
    obtain ⟨hlt, hline, hrecords⟩ := ih (Scan.anchored_none _ _) (Scan.follows_none hcount _) n hn
    have hsettled := Scan.settled_le_count ha
    rw [Scan.settled_none] at hlt
    rw [List.append_assoc] at hline
    refine ⟨by omega, hline, List.forall_mem_cons.mpr ⟨?_, hrecords⟩⟩
    rw [Bool.eq_false_iff, ne_eq, Record.holds_iff, FencedLines.endLine_record]
    omega

end Reading

namespace Outline

variable {t : Text} {o : Outline}

/-- **The lines of headings and breaks** are lines of the document outside fences, and none of them
is blank. -/
theorem exists_line_of_mem_headingLines (ho : Outline.parse t = .ok o) {n : ℕ}
    (hn : n ∈ headingLines t) :
    o.isFenced n = false ∧ ∃ l, lineAt? (lines t) n = some l ∧ allBlank l = false := by
  obtain ⟨last, items, hread, rfl⟩ := parse_eq_ok_iff.mp ho
  have hstart : Scan.start.Follows [] := Scan.follows_none (n := 0) rfl none
  obtain ⟨-, hline, hrecords⟩ := hread.exists_line_of_mem_headingLines (Scan.anchored_none 0 none)
    hstart n hn
  refine ⟨?_, hline⟩
  rw [isFenced, List.any_eq_false]
  intro r hr
  rw [hrecords r hr]
  exact Bool.false_ne_true

end Outline

end Literate

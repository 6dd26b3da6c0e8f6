import Mathlib
import Literate.Outline.Scan
import Literate.Proofs.Fence

/-!
# Documents read by lines and fenced ranges

The scanner goes line by line, but outside a fence it matters only whether a line opens one, and a
fence that opens is read to its closing line before anything else happens.  `Reading` says what the
scanner does in these larger steps, so that proofs never meet the inside of an open fence.

* `FencedLines`: the lines of one fenced range, with what makes them one.
* `Reading`: the scanner over lines outside fences and whole fenced ranges.
* `Scan.finish_eq_ok_iff`: lines can be read to their end exactly when they have a reading.
* `Reading.record_inv`: every record of a reading comes from a fenced range of the document.
-/

namespace Literate

open Text

/-! ## Fenced ranges -/

/-- The lines of a fenced range: the opening fence, lines that leave it open, and the fence line
that closes it. -/
structure FencedLines where
  opener : Line
  inner : List Line
  closer : Line
  fence : Fence
  closing : Fence
  opens : Fence.ofLine? opener = some fence
  keepsOpen : ∀ l ∈ inner, fence.KeepsOpen l
  ends : Fence.ofLine? closer = some closing
  closes : fence.closes closing = true
  bare : closing.info = []

namespace FencedLines

/-- All lines of the range. -/
def lines (g : FencedLines) : List Line := g.opener :: (g.inner ++ [g.closer])

/-- The number of lines of the range. -/
def height (g : FencedLines) : ℕ := g.inner.length + 2

@[simp] theorem length_lines (g : FencedLines) : g.lines.length = g.height := by
  simp [lines, height]

/-- The record of a range that starts after line `n`. -/
def record (g : FencedLines) (n : ℕ) : Record :=
  Scan.recordOf (n + 1) (n + g.height) g.fence g.inner

end FencedLines

namespace Scan

@[simp] theorem startLine_recordOf (first last : ℕ) (f : Fence) (body : List Line) :
    (recordOf first last f body).startLine = first := by
  unfold recordOf; split_ifs <;> rfl

@[simp] theorem endLine_recordOf (first last : ℕ) (f : Fence) (body : List Line) :
    (recordOf first last f body).endLine = last := by
  unfold recordOf; split_ifs <;> rfl

end Scan

@[simp] theorem FencedLines.startLine_record (g : FencedLines) (n : ℕ) :
    (g.record n).startLine = n + 1 := Scan.startLine_recordOf ..

@[simp] theorem FencedLines.endLine_record (g : FencedLines) (n : ℕ) :
    (g.record n).endLine = n + g.height := Scan.endLine_recordOf ..

/-! ## One line -/

namespace Scan

/-- What a line that is no fence line does outside fences. -/
inductive ProseStep (s : Scan) (n : ℕ) (l : Line) : Option Paragraph → Scan × Option Item → Prop
  | blank {open?} (hl : allBlank l = true) : ProseStep s n l open? (s.skip n none)
  | underline1 {p} (hl : allBlank l = false) (hp : p.inList = false)
      (hu : LineKind.isUnderline1 l = true) :
      ProseStep s n l (some p) (slide n ⟨p.startLine, p.title, .heading⟩)
  | underline2 {p} (hl : allBlank l = false) (hp : p.inList = false)
      (hu : LineKind.isUnderline1 l = false) (hu2 : LineKind.isUnderline2 l = true) :
      ProseStep s n l (some p) (s.skip n none)
  | rule {open?} (hl : allBlank l = false) (hb : LineKind.isBreak l = true) :
      ProseStep s n l open? (slide n ⟨n, if isRepeat l then s.title.getD [] else [], .break⟩)
  | heading {open? title} (hl : allBlank l = false) (hb : LineKind.isBreak l = false)
      (ht : LineKind.headingTitle? l = some title) :
      ProseStep s n l open? (slide n ⟨n, title, .heading⟩)
  | aside {open?} (hl : allBlank l = false) (hb : LineKind.isBreak l = false)
      (ht : LineKind.headingTitle? l = none)
      (ha : (LineKind.isHeading l || LineKind.isQuote l) = true) :
      ProseStep s n l open? (s.skip n none)
  | begins (hl : allBlank l = false) (hb : LineKind.isBreak l = false)
      (ht : LineKind.headingTitle? l = none)
      (ha : (LineKind.isHeading l || LineKind.isQuote l) = false) :
      ProseStep s n l none (s.skip n (some ⟨n, [l], LineKind.isItem l⟩))
  | extends {p} (hl : allBlank l = false) (hb : LineKind.isBreak l = false)
      (ht : LineKind.headingTitle? l = none)
      (ha : (LineKind.isHeading l || LineKind.isQuote l) = false) :
      ProseStep s n l (some p)
        (s.skip n (some { p with
          lines := p.lines ++ [l], inList := p.inList || LineKind.isItem l }))

theorem stepText_spec (s : Scan) (n : ℕ) (open? : Option Paragraph) {l : Line}
    (hl : allBlank l = false) : ProseStep s n l open? (s.stepText n open? l) := by
  rw [stepText.eq_def]
  cases hb : LineKind.isBreak l with
  | true => exact .rule hl hb
  | false =>
    cases ht : LineKind.headingTitle? l with
    | some title => exact .heading hl hb ht
    | none =>
      cases ha : LineKind.isHeading l || LineKind.isQuote l with
      | true => exact .aside hl hb ht ha
      | false =>
        cases open? with
        | none => exact .begins hl hb ht ha
        | some p => exact .extends hl hb ht ha

theorem stepProse_spec (s : Scan) (n : ℕ) (open? : Option Paragraph) {l : Line}
    (hf : Fence.ofLine? l = none) : ProseStep s n l open? (s.stepProse n open? l) := by
  rw [stepProse.eq_def, hf]
  cases hl : allBlank l with
  | true => exact .blank hl
  | false =>
    cases open? with
    | none => exact stepText_spec s n none hl
    | some p =>
      cases hp : p.inList with
      | true => simpa [hp] using stepText_spec s n (some p) hl
      | false =>
        cases hu : LineKind.isUnderline1 l with
        | true => simpa [hp, hu] using ProseStep.underline1 hl hp hu
        | false =>
          cases hu2 : LineKind.isUnderline2 l with
          | true => simpa [hp, hu, hu2] using ProseStep.underline2 hl hp hu hu2
          | false => simpa [hp, hu, hu2] using stepText_spec s n (some p) hl

theorem stepProse_blank (s : Scan) (n : ℕ) (open? : Option Paragraph) {l : Line}
    (hl : allBlank l = true) : s.stepProse n open? l = s.skip n none := by
  simp [stepProse, Fence.ofLine?_eq_none_of_allBlank hl, hl]

theorem stepProse_fence (s : Scan) (n : ℕ) (open? : Option Paragraph) {l : Line} {f : Fence}
    (hf : Fence.ofLine? l = some f) :
    s.stepProse n open? l = (⟨n, .fenced n f [], s.title⟩, none) := by
  simp [stepProse, hf]

/-- Outside fences a line that opens none leaves the scanner there, one line further. -/
theorem stepProse_mode (s : Scan) (n : ℕ) (open? : Option Paragraph) {l : Line}
    (hf : Fence.ofLine? l = none) :
    (s.stepProse n open? l).1.count = n ∧
      ∃ next?, (s.stepProse n open? l).1.mode = .prose next? := by
  have hspec := stepProse_spec s n open? hf
  generalize s.stepProse n open? l = res at hspec
  cases hspec <;> exact ⟨rfl, _, rfl⟩

/-- A line outside fences finishes no record. -/
theorem stepProse_records (s : Scan) (n : ℕ) (open? : Option Paragraph) {l : Line}
    (hf : Fence.ofLine? l = none) :
    (s.stepProse n open? l).2.toList.filterMap Item.record? = [] := by
  have hspec := stepProse_spec s n open? hf
  generalize s.stepProse n open? l = res at hspec
  cases hspec <;> rfl

theorem step_prose {s : Scan} {open? : Option Paragraph} (hs : s.mode = .prose open?) (l : Line) :
    s.step l = .ok (s.stepProse (s.count + 1) open? l) := by
  simp [step, hs]

theorem run_cons_ok {s : Scan} {l : Line} {next : Scan × Option Item} (h : s.step l = .ok next)
    (ls : List Line) :
    s.run (l :: ls) = (next.1.run ls).map fun r => (r.1, next.2.toList ++ r.2) := by
  rw [run, h]
  cases hr : next.1.run ls <;> simp [hr, Except.map]

theorem run_map_inv {s t : Scan} {ls : List Line} {items : List Item}
    {f : List Item → List Item}
    (h : ((s.run ls).map fun r => (r.1, f r.2)) = .ok (t, items)) :
    ∃ more, s.run ls = .ok (t, more) ∧ items = f more := by
  cases hr : s.run ls with
  | error e => simp [hr, Except.map] at h
  | ok r =>
    rw [hr] at h
    cases h
    exact ⟨r.2, rfl, rfl⟩

/-! ## One fenced range -/

theorem stepFenced_keepsOpen {s : Scan} {n first : ℕ} {f : Fence} {body : List Line} {l : Line}
    (hl : f.KeepsOpen l) :
    s.stepFenced n first f body l = .ok (⟨n, .fenced first f (body ++ [l]), s.title⟩, none) := by
  unfold stepFenced
  cases hg : Fence.ofLine? l with
  | none => rfl
  | some g => simp [hl g hg]

theorem stepFenced_closes {s : Scan} {n first : ℕ} {f g : Fence} {body : List Line} {l : Line}
    (hl : Fence.ofLine? l = some g) (hg : f.closes g = true) (hi : g.info = []) :
    s.stepFenced n first f body l =
      .ok (⟨n, .prose none, s.title⟩, some (.record (recordOf first n f body))) := by
  simp [stepFenced, hl, hg, hi]

/-- Lines that leave the open fence open are gathered. -/
theorem run_inner (f : Fence) (first : ℕ) (title : Option Text) (ls : List Line) :
    ∀ (inner body : List Line) (n : ℕ), (∀ l ∈ inner, f.KeepsOpen l) →
      run ⟨n, .fenced first f body, title⟩ (inner ++ ls) =
        run ⟨n + inner.length, .fenced first f (body ++ inner), title⟩ ls := by
  intro inner
  induction inner with
  | nil => intro body n _; simp
  | cons l inner ih =>
    intro body n h
    have hl : f.KeepsOpen l := h l (by simp)
    have hstep : step ⟨n, .fenced first f body, title⟩ l =
        .ok (⟨n + 1, .fenced first f (body ++ [l]), title⟩, none) := stepFenced_keepsOpen hl
    rw [List.cons_append, run_cons_ok hstep, ih _ _ (fun m hm => h m (by simp [hm])),
      List.append_assoc, List.singleton_append, List.length_cons,
      show n + 1 + inner.length = n + (inner.length + 1) by omega]
    cases run ⟨n + (inner.length + 1), .fenced first f (body ++ l :: inner), title⟩ ls <;> rfl

/-- A fenced range is read as one item and leaves the scanner outside fences. -/
theorem run_range {s : Scan} {open? : Option Paragraph} (hs : s.mode = .prose open?)
    (g : FencedLines) (ls : List Line) :
    s.run (g.lines ++ ls) = (run ⟨s.count + g.height, .prose none, s.title⟩ ls).map
      fun r => (r.1, .record (g.record s.count) :: r.2) := by
  have hopen : s.step g.opener =
      .ok (⟨s.count + 1, .fenced (s.count + 1) g.fence [], s.title⟩, none) := by
    rw [step_prose hs, stepProse_fence _ _ _ g.opens]
  have hclose : step ⟨s.count + 1 + g.inner.length,
        .fenced (s.count + 1) g.fence ([] ++ g.inner), s.title⟩ g.closer =
      .ok (⟨s.count + g.height, .prose none, s.title⟩, some (.record (g.record s.count))) := by
    have hn : s.count + 1 + g.inner.length + 1 = s.count + g.height := by
      simp only [FencedLines.height]; omega
    rw [step, hn]
    exact stepFenced_closes g.ends g.closes g.bare
  rw [FencedLines.lines, List.cons_append, run_cons_ok hopen, List.append_assoc,
    run_inner _ _ _ _ _ _ _ g.keepsOpen, List.singleton_append, run_cons_ok hclose]
  cases run ⟨s.count + g.height, .prose none, s.title⟩ ls <;> rfl

/-- What is left after an opening fence: a fenced range, or lines that never close it. -/
theorem run_fenced_inv {f : Fence} {first : ℕ} {title : Option Text} :
    ∀ {ls : List Line} {body : List Line} {n : ℕ} {last : Scan} {items : List Item},
      run ⟨n, .fenced first f body, title⟩ ls = .ok (last, items) →
      (∃ inner closer g rest, ls = inner ++ closer :: rest ∧ (∀ l ∈ inner, f.KeepsOpen l) ∧
          Fence.ofLine? closer = some g ∧ f.closes g = true ∧ g.info = []) ∨
        ∃ body', last.mode = .fenced first f body' := by
  intro ls
  induction ls with
  | nil =>
    intro body n last items h
    cases h
    exact .inr ⟨body, rfl⟩
  | cons l ls ih =>
    intro body n last items h
    by_cases hl : f.KeepsOpen l
    · have hstep : step ⟨n, .fenced first f body, title⟩ l =
          .ok (⟨n + 1, .fenced first f (body ++ [l]), title⟩, none) := stepFenced_keepsOpen hl
      rw [run_cons_ok hstep] at h
      obtain ⟨more, hrun, -⟩ := run_map_inv h
      rcases ih hrun with ⟨inner, closer, g, rest, rfl, hin, hg⟩ | hopen
      · refine .inl ⟨l :: inner, closer, g, rest, rfl, ?_, hg⟩
        intro m hm
        rcases List.mem_cons.mp hm with rfl | hm
        · exact hl
        · exact hin m hm
      · exact .inr hopen
    · -- the line has to do with the fence, so it closes it
      simp only [Fence.KeepsOpen, not_forall, Bool.not_eq_false] at hl
      obtain ⟨g, hg, hcl⟩ := hl
      by_cases hi : g.info = []
      · exact .inl ⟨[], l, g, ls, rfl, by simp, hg, hcl, hi⟩
      · have : step ⟨n, .fenced first f body, title⟩ l = .error (.nested (n + 1) first) := by
          simp [step, stepFenced, hg, hcl, hi]
        simp [run, this] at h

end Scan

/-! ## Readings -/

/-- What the scanner does outside fences, a line or a whole fenced range at a time. -/
inductive Reading : Scan → List Line → Scan → List Item → Prop
  | nil {s open?} (hs : s.mode = .prose open?) : Reading s [] s []
  | line {s t open? l ls items} (hs : s.mode = .prose open?) (hl : Fence.ofLine? l = none)
      (rest : Reading (s.stepProse (s.count + 1) open? l).1 ls t items) :
      Reading s (l :: ls) t ((s.stepProse (s.count + 1) open? l).2.toList ++ items)
  | range {s t open? ls items} (hs : s.mode = .prose open?) (g : FencedLines)
      (rest : Reading ⟨s.count + g.height, .prose none, s.title⟩ ls t items) :
      Reading s (g.lines ++ ls) t (.record (g.record s.count) :: items)

namespace Reading

variable {s t : Scan} {ls : List Line} {items : List Item}

/-- A reading is a run. -/
theorem run_eq (h : Reading s ls t items) : s.run ls = .ok (t, items) := by
  induction h with
  | nil _ => rfl
  | line hs hl rest ih => rw [Scan.run_cons_ok (Scan.step_prose hs _), ih]; rfl
  | range hs g rest ih => rw [Scan.run_range hs, ih]; rfl

/-- A reading ends outside fences. -/
theorem mode_end (h : Reading s ls t items) : ∃ open?, t.mode = .prose open? := by
  induction h with
  | nil hs => exact ⟨_, hs⟩
  | line _ _ _ ih => exact ih
  | range _ _ _ ih => exact ih

theorem count_end (h : Reading s ls t items) : t.count = s.count + ls.length := by
  induction h with
  | nil _ => simp
  | line hs hl rest ih =>
    rw [ih, (Scan.stepProse_mode _ _ _ hl).1, List.length_cons]
    omega
  | range hs g rest ih =>
    rw [ih, List.length_append, FencedLines.length_lines]
    simp only
    omega

theorem append {u : Scan} {ms : List Line} {more : List Item} (h : Reading s ls t items)
    (h' : Reading t ms u more) : Reading s (ls ++ ms) u (items ++ more) := by
  induction h with
  | nil _ => exact h'
  | line hs hl _ ih =>
    rw [List.append_assoc]
    exact .line hs hl (ih h')
  | range hs g _ ih =>
    rw [List.append_assoc]
    exact .range hs g (ih h')

/-- A fenced range and nothing else is read. -/
theorem single {open? : Option Paragraph} (hs : s.mode = .prose open?) (g : FencedLines) :
    Reading s g.lines ⟨s.count + g.height, .prose none, s.title⟩ [.record (g.record s.count)] := by
  have h := Reading.range hs g (.nil rfl)
  rwa [List.append_nil] at h

/-- Blank lines are read without a trace. -/
theorem blanks (title : Option Text) {ls : List Line} (h : ∀ l ∈ ls, allBlank l = true) (n : ℕ) :
    Reading ⟨n, .prose none, title⟩ ls ⟨n + ls.length, .prose none, title⟩ [] := by
  induction ls generalizing n with
  | nil => exact .nil rfl
  | cons l ls ih =>
    have hl : allBlank l = true := h l (by simp)
    have hstep := Scan.stepProse_blank ⟨n, .prose none, title⟩ (n + 1) none hl
    have hrest := ih (fun m hm => h m (by simp [hm])) (n + 1)
    have hline : Reading ⟨n, .prose none, title⟩ (l :: ls)
        ⟨n + 1 + ls.length, .prose none, title⟩ _ :=
      .line rfl (Fence.ofLine?_eq_none_of_allBlank hl) (by rw [hstep]; exact hrest)
    rw [hstep] at hline
    rw [List.length_cons, show n + (ls.length + 1) = n + 1 + ls.length by omega]
    exact hline

/-- A run that ends outside fences is a reading. -/
theorem of_run : ∀ {ls : List Line} {s t : Scan} {items : List Item}
    {open? last? : Option Paragraph}, s.mode = .prose open? → s.run ls = .ok (t, items) → t.mode = .prose last? →
      Reading s ls t items := by
  intro ls
  -- a fenced range takes off several lines at once
  induction hn : ls.length using Nat.strong_induction_on generalizing ls with
  | _ n ih =>
    intro s t items open? last? hs hrun ht
    cases ls with
    | nil => cases hrun; exact .nil hs
    | cons l ls =>
      cases hf : Fence.ofLine? l with
      | none =>
        rw [Scan.run_cons_ok (Scan.step_prose hs l)] at hrun
        obtain ⟨more, hr, rfl⟩ := Scan.run_map_inv hrun
        obtain ⟨-, next?, hnext⟩ := Scan.stepProse_mode s (s.count + 1) open? hf
        exact .line hs hf (ih ls.length (by simp [← hn]) rfl hnext hr ht)
      | some f =>
        have hstep : s.step l =
            .ok (⟨s.count + 1, .fenced (s.count + 1) f [], s.title⟩, none) := by
          rw [Scan.step_prose hs, Scan.stepProse_fence _ _ _ hf]
        have hrun' := hrun
        rw [Scan.run_cons_ok hstep] at hrun'
        obtain ⟨_, hr, -⟩ := Scan.run_map_inv hrun'
        rcases Scan.run_fenced_inv hr with ⟨inner, closer, c, rest, rfl, hin, hc, hcl, hi⟩ | ⟨_, hm⟩
        · let g : FencedLines := ⟨l, inner, closer, f, c, hf, hin, hc, hcl, hi⟩
          have hg : l :: (inner ++ closer :: rest) = g.lines ++ rest := by
            simp [FencedLines.lines, g]
          rw [hg] at hrun hn ⊢
          rw [Scan.run_range hs] at hrun
          obtain ⟨more, hr', rfl⟩ := Scan.run_map_inv hrun
          have hlen : rest.length < n := by
            rw [← hn, List.length_append, FencedLines.length_lines]
            simp only [FencedLines.height]; omega
          exact .range hs g (ih rest.length hlen rfl rfl hr' ht)
        · rw [ht] at hm; cases hm

end Reading

/-- A document is read to its end exactly when it has a reading. -/
theorem Scan.finish_eq_ok_iff {s : Scan} {open? : Option Paragraph} (hs : s.mode = .prose open?)
    {ls : List Line} {items : List Item} :
    s.finish ls = .ok items ↔ ∃ t, Reading s ls t items := by
  constructor
  · intro h
    unfold finish at h
    cases hr : s.run ls with
    | error e => simp [hr] at h
    | ok r =>
      obtain ⟨t, items'⟩ := r
      simp only [hr] at h
      cases hm : t.mode with
      | prose last? =>
        simp only [hm, Except.ok.injEq] at h
        obtain rfl := h
        exact ⟨t, .of_run hs hr hm⟩
      | fenced => simp [hm] at h
  · rintro ⟨t, h⟩
    obtain ⟨last?, hm⟩ := h.mode_end
    simp [finish, h.run_eq, hm]

/-- A record was read from a fenced range, whose lines can be found in the document. -/
theorem Reading.record_inv {s t : Scan} {ls : List Line} {items : List Item} {r : Record}
    (h : Reading s ls t items) (hr : Item.record r ∈ items) :
    ∃ pre g post mid before after, ls = pre ++ g.lines ++ post ∧ Reading s pre mid before ∧
      r = FencedLines.record g mid.count ∧
      Reading ⟨mid.count + g.height, .prose none, mid.title⟩ post t after ∧
      items = before ++ .record r :: after := by
  induction h with
  | nil _ => simp at hr
  | @line s t open? l ls items hs hl rest ih =>
    have hitem : Item.record r ∈ items := by
      rcases List.mem_append.mp hr with h | h
      · have hrec : r ∈ (s.stepProse (s.count + 1) open? l).2.toList.filterMap Item.record? :=
          List.mem_filterMap.mpr ⟨_, h, rfl⟩
        rw [Scan.stepProse_records s (s.count + 1) open? hl] at hrec
        cases hrec
      · exact h
    obtain ⟨pre, g, post, mid, before, after, rfl, hpre, hg, hpost, rfl⟩ := ih hitem
    refine ⟨l :: pre, g, post, mid, _ ++ before, after, rfl, .line hs hl hpre, hg, hpost, ?_⟩
    rw [List.append_assoc]
  | @range s t open? ls items hs g rest ih =>
    rcases List.mem_cons.mp hr with h | h
    · cases h
      exact ⟨[], g, ls, s, [], items, rfl, .nil hs, rfl, rest, rfl⟩
    · obtain ⟨pre, g', post, mid, before, after, rfl, hpre, hg, hpost, rfl⟩ := ih h
      refine ⟨g.lines ++ pre, g', post, mid, .record (g.record s.count) :: before, after, ?_,
        .range hs g hpre, hg, hpost, rfl⟩
      simp

end Literate

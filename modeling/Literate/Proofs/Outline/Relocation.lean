import Mathlib
import Literate.Proofs.Outline.Order

/-!
# Reading lines at another place

The scanner does not depend on where in a document it is: read from a line with another number, the
same lines finish the same items at other lines.

* `Item.relocate`: an item with its line numbers sent through a function.
* `Reading.relocate`: a reading commutes with every function that sends the numbers of the lines to
  come to consecutive numbers.
* `Reading.splice`: replaces the lines between two places outside fences that no paragraph spans.
* `Outline.withImplicit_relocate`: the implicit slide stays where it is.
-/

namespace Literate

open Text

/-! ## Items at other lines -/

/-- The block with its lines renumbered; its text, options and explicit name stay. -/
def Block.relocate (f : ℕ → ℕ) (b : Block) : Block :=
  { b with startLine := f b.startLine, endLine := f b.endLine }

/-- The region with its lines renumbered. -/
def OutputRegion.relocate (f : ℕ → ℕ) (r : OutputRegion) : OutputRegion :=
  ⟨f r.startLine, f r.endLine⟩

/-- The record with its lines renumbered. -/
def Record.relocate (f : ℕ → ℕ) : Record → Record
  | block b => block (b.relocate f)
  | output r => output (r.relocate f)

/-- The slide with its line renumbered; its title and kind stay. -/
def Slide.relocate (f : ℕ → ℕ) (s : Slide) : Slide := { s with startLine := f s.startLine }

namespace Item

/-- The item with its lines renumbered. -/
def relocate (f : ℕ → ℕ) : Item → Item
  | record r => record (r.relocate f)
  | slide s => slide (s.relocate f)

theorem relocate_congr {f g : ℕ → ℕ} {i : Item} (h1 : f i.firstLine = g i.firstLine)
    (h2 : f i.lastLine = g i.lastLine) : i.relocate f = i.relocate g := by
  match i with
  | .record (.block b) =>
    simp only [firstLine, lastLine, Record.startLine, Record.endLine] at h1 h2
    simp [relocate, Record.relocate, Block.relocate, h1, h2]
  | .record (.output r) =>
    simp only [firstLine, lastLine, Record.startLine, Record.endLine] at h1 h2
    simp [relocate, Record.relocate, OutputRegion.relocate, h1, h2]
  | .slide s =>
    simp only [firstLine] at h1
    simp [relocate, Slide.relocate, h1]

theorem relocate_id (i : Item) : i.relocate id = i := by
  match i with
  | .record (.block _) => rfl
  | .record (.output _) => rfl
  | .slide _ => rfl

/-- Items at lines that keep their numbers stay as they are. -/
theorem map_relocate_eq_self {f : ℕ → ℕ} {low high : ℕ} {items : List Item}
    (h : Ordered low high items) (hf : ∀ n ≤ high, f n = n) : items.map (relocate f) = items := by
  conv => rhs; rw [← List.map_id items]
  apply List.map_congr_left
  intro i hi
  have h1 := h.proper i hi
  have h2 := h.below i hi
  rw [relocate_congr (g := id) (hf _ (by omega)) (hf _ h2), relocate_id, id]

theorem map_relocate_congr {f g : ℕ → ℕ} {low high : ℕ} {items : List Item}
    (h : Ordered low high items) (hfg : ∀ n, low < n → f n = g n) :
    items.map (relocate f) = items.map (relocate g) := by
  apply List.map_congr_left
  intro i hi
  have h1 := h.above i hi
  have h2 := h.proper i hi
  exact relocate_congr (hfg _ h1) (hfg _ (by omega))

theorem filterMap_record?_relocate (f : ℕ → ℕ) (items : List Item) :
    (items.map (relocate f)).filterMap record? =
      (items.filterMap record?).map (Record.relocate f) := by
  rw [List.filterMap_map, List.map_filterMap]
  exact List.filterMap_congr fun i _ => by cases i <;> rfl

theorem filterMap_slide?_relocate (f : ℕ → ℕ) (items : List Item) :
    (items.map (relocate f)).filterMap slide? = (items.filterMap slide?).map (Slide.relocate f) := by
  rw [List.filterMap_map, List.map_filterMap]
  exact List.filterMap_congr fun i _ => by cases i <;> rfl

end Item

/-! ## The scanner at other lines -/

/-- The paragraph with its first line renumbered. -/
def Paragraph.relocate (f : ℕ → ℕ) (p : Paragraph) : Paragraph :=
  { p with startLine := f p.startLine }

namespace Scan

/-- The scanner outside fences at another line. -/
def relocate (f : ℕ → ℕ) (s : Scan) : Scan :=
  { s with
    count := f s.count
    mode := match s.mode with
      | .prose open? => .prose (open?.map (Paragraph.relocate f))
      | .fenced first opener body => .fenced (f first) opener body }

@[simp] theorem relocate_none (f : ℕ → ℕ) (n : ℕ) (title : Option Text) :
    relocate f ⟨n, .prose none, title⟩ = ⟨f n, .prose none, title⟩ := rfl

theorem mode_relocate (f : ℕ → ℕ) {s : Scan} {open? : Option Paragraph}
    (hs : s.mode = .prose open?) :
    (s.relocate f).mode = .prose (open?.map (Paragraph.relocate f)) := by
  simp only [relocate, hs]

theorem stepText_relocate (f : ℕ → ℕ) (s : Scan) (n : ℕ) (open? : Option Paragraph) (l : Line) :
    (s.relocate f).stepText (f n) (open?.map (Paragraph.relocate f)) l =
      ((s.stepText n open? l).1.relocate f, (s.stepText n open? l).2.map (Item.relocate f)) := by
  rw [stepText.eq_def, stepText.eq_def]
  cases LineKind.isBreak l with
  | true => rfl
  | false =>
    cases LineKind.headingTitle? l with
    | some title => rfl
    | none =>
      cases LineKind.isHeading l || LineKind.isQuote l with
      | true => rfl
      | false => cases open? <;> rfl

/-- Outside fences the scanner treats a line alike wherever it stands. -/
theorem stepProse_relocate (f : ℕ → ℕ) (s : Scan) (n : ℕ) (open? : Option Paragraph) {l : Line}
    (hl : Fence.ofLine? l = none) :
    (s.relocate f).stepProse (f n) (open?.map (Paragraph.relocate f)) l =
      ((s.stepProse n open? l).1.relocate f, (s.stepProse n open? l).2.map (Item.relocate f)) := by
  have htext := stepText_relocate f s n open? l
  rw [stepProse.eq_def, stepProse.eq_def, hl]
  cases allBlank l with
  | true => rfl
  | false =>
    cases open? with
    | none => exact htext
    | some p =>
      cases hp : p.inList with
      | true => simpa [hp, Paragraph.relocate] using htext
      | false =>
        cases hu : LineKind.isUnderline1 l with
        | true => simp [hp, Paragraph.relocate, slide, relocate, Item.relocate, Slide.relocate,
            Paragraph.title]
        | false =>
          cases hu2 : LineKind.isUnderline2 l with
          | true => simp [hp, Paragraph.relocate, skip, relocate]
          | false => simpa [hp, Paragraph.relocate] using htext

theorem recordOf_relocate (f : ℕ → ℕ) (first last : ℕ) (opener : Fence) (body : List Line) :
    recordOf (f first) (f last) opener body = (recordOf first last opener body).relocate f := by
  unfold recordOf
  split_ifs <;> rfl

end Scan

/-- A function that sends the numbers from `n` on to consecutive numbers. -/
def ConsecutiveFrom (n : ℕ) (f : ℕ → ℕ) : Prop := ∀ m, n ≤ m → f (m + 1) = f m + 1

namespace ConsecutiveFrom

variable {n : ℕ} {f : ℕ → ℕ}

theorem add (h : ConsecutiveFrom n f) {m : ℕ} (hm : n ≤ m) (k : ℕ) : f (m + k) = f m + k := by
  induction k with
  | zero => rfl
  | succ k ih => rw [← Nat.add_assoc, h (m + k) (by omega), ih, Nat.add_assoc]

theorem mono (h : ConsecutiveFrom n f) {m : ℕ} (hm : n ≤ m) : ConsecutiveFrom m f :=
  fun k hk => h k (hm.trans hk)

end ConsecutiveFrom

theorem FencedLines.record_relocate {f : ℕ → ℕ} (g : FencedLines) {n : ℕ}
    (hf : ConsecutiveFrom n f) : g.record (f n) = (g.record n).relocate f := by
  rw [record, record, ← Scan.recordOf_relocate, hf.add le_rfl, hf.add le_rfl]

namespace Reading

variable {s t : Scan} {ls : List Line} {items : List Item}

/-- **Reading elsewhere.**  The same lines read from another line finish the same items there. -/
theorem relocate {f : ℕ → ℕ} (h : Reading s ls t items) (hf : ConsecutiveFrom s.count f) :
    Reading (s.relocate f) ls (t.relocate f) (items.map (Item.relocate f)) := by
  induction h with
  | nil hs => exact .nil (Scan.mode_relocate f hs)
  | @line s t open? l ls items hs hl rest ih =>
    have hstep := Scan.stepProse_relocate f s (s.count + 1) open? hl
    rw [hf s.count le_rfl] at hstep
    have hcount := (Scan.stepProse_mode s (s.count + 1) open? hl).1
    have hrest := ih (hf.mono (by omega))
    have hline := Reading.line (Scan.mode_relocate f hs) hl
      (by rw [show (s.relocate f).count = f s.count from rfl, hstep]; exact hrest)
    rw [show (s.relocate f).count = f s.count from rfl, hstep] at hline
    rw [List.map_append]
    cases hi : (s.stepProse (s.count + 1) open? l).2 <;> simpa [hi] using hline
  | @range s t open? ls items hs g rest ih =>
    have hrest := ih (hf.mono (by simp))
    rw [Scan.relocate_none, hf.add le_rfl] at hrest
    have hrange := Reading.range (Scan.mode_relocate f hs) g hrest
    rw [show (s.relocate f).count = f s.count from rfl, g.record_relocate hf] at hrange
    exact hrange

/-- The lines after a place that no paragraph spans, read from another line. -/
theorem relocate_none {n : ℕ} {title : Option Text}
    (h : Reading ⟨n, .prose none, title⟩ ls t items) (m : ℕ) :
    ∃ u, Reading ⟨m, .prose none, title⟩ ls u (items.map (Item.relocate (fun k => k + m - n))) := by
  have hf : ConsecutiveFrom n (fun k => k + m - n) := by
    intro k hk
    simp only
    omega
  have := h.relocate (f := fun k => k + m - n) hf
  rw [Scan.relocate_none, show n + m - n = m by omega] at this
  exact ⟨_, this⟩

/-- **Splicing.**  Between two places that no paragraph spans, lines can be exchanged for others;
what follows is read as before, at other lines. -/
theorem splice {front middle back : List Line} {n m k : ℕ} {title : Option Text} {u : Scan}
    {before new after : List Item} (hfront : Reading s front ⟨n, .prose none, title⟩ before)
    (hmiddle : Reading ⟨n, .prose none, title⟩ middle ⟨m, .prose none, title⟩ new)
    (hback : Reading ⟨k, .prose none, title⟩ back u after) :
    ∃ v, Reading s (front ++ middle ++ back) v
      (before ++ new ++ after.map (Item.relocate fun j => j + m - k)) := by
  obtain ⟨v, hv⟩ := hback.relocate_none m
  exact ⟨v, (hfront.append hmiddle).append hv⟩

end Reading

/-! ## The implicit slide -/

namespace Outline

/-- The implicit slide stays when slides move only behind the first content. -/
theorem withImplicit_relocate {ls ls' : List Line} {first : ℕ} {f : ℕ → ℕ}
    (h : firstContent? ls = some first) (h' : firstContent? ls' = some first)
    (hone : f 1 = 1) {slides : List Slide}
    (hf : ∀ s ∈ slides, first < f s.startLine ↔ first < s.startLine) :
    withImplicit ls' (slides.map (Slide.relocate f)) =
      (withImplicit ls slides).map (Slide.relocate f) := by
  rw [withImplicit, withImplicit, h, h']
  cases slides with
  | nil => simp [Slide.relocate, hone]
  | cons s slides =>
    have hs := hf s (by simp)
    by_cases hlt : first < s.startLine
    · simp [Slide.relocate, hone, hlt, hs.mpr hlt]
    · simp [Slide.relocate, hlt, mt hs.mp hlt]

end Outline

end Literate

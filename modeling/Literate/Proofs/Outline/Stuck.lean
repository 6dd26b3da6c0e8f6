import Mathlib
import Literate.Proofs.Outline.Layout

/-!
# Documents that cannot be read

Reading a document fails at an opening fence: behind lines with a layout stands a fence line that no
later line closes, or whose first later match has an info string.  Lines have a layout or are stuck
in this way, never both, so the error of a document can be read off its lines.

* `Fence.matching?`: the fence lines that have to do with an open fence.
* `Fence.Fails`: how an opening fence fails in front of the lines that follow it.
* `Stuck`: lines with a layout up to a fence that fails.
* `exists_layout_or_stuck`: there is no third case.
* `Outline.parse_eq_error_iff`: a document has an error exactly when its lines are stuck with it.
-/

namespace Literate

open Text

/-! ## The first match of a fence -/

namespace Fence

/-- Reads a fence line of the opener's character with at least its length. -/
def matching? (opener : Fence) (l : Line) : Option Fence := (ofLine? l).filter opener.closes

theorem matching?_eq_some_iff {f g : Fence} {l : Line} :
    f.matching? l = some g ↔ ofLine? l = some g ∧ f.closes g = true := Option.filter_eq_some_iff

theorem matching?_eq_none_iff {f : Fence} {l : Line} : f.matching? l = none ↔ f.KeepsOpen l := by
  rw [matching?, Option.filter_eq_none_iff, KeepsOpen]
  simp

/-- No line matches the fence, or there is a first one. -/
theorem forall_keepsOpen_or_exists (f : Fence) (ls : List Line) :
    (∀ l ∈ ls, f.KeepsOpen l) ∨
      ∃ inner l g rest, ls = inner ++ l :: rest ∧ (∀ m ∈ inner, f.KeepsOpen m) ∧
        f.matching? l = some g := by
  induction ls with
  | nil => exact .inl (by simp)
  | cons l ls ih =>
    cases hl : f.matching? l with
    | some g => exact .inr ⟨[], l, g, ls, rfl, by simp, hl⟩
    | none =>
      have hopen : f.KeepsOpen l := matching?_eq_none_iff.mp hl
      rcases ih with hall | ⟨inner, m, g, rest, rfl, hin, hm⟩
      · exact .inl (List.forall_mem_cons.mpr ⟨hopen, hall⟩)
      · exact .inr ⟨l :: inner, m, g, rest, rfl, List.forall_mem_cons.mpr ⟨hopen, hin⟩, hm⟩

/-- How a fence opened at line `n` fails in front of the lines that follow it. -/
inductive Fails (f : Fence) (n : ℕ) : List Line → ParseError → Prop
  | unclosed {ls} (h : ∀ l ∈ ls, f.KeepsOpen l) : Fails f n ls (.unclosed n)
  | nested {inner l g rest} (hin : ∀ m ∈ inner, f.KeepsOpen m) (hl : f.matching? l = some g)
      (hg : g.info ≠ []) : Fails f n (inner ++ l :: rest) (.nested (n + inner.length + 1) n)

/-- A failing fence fails alike wherever it stands. -/
theorem Fails.shift {f : Fence} {n : ℕ} {ls : List Line} {e : ParseError} (h : f.Fails n ls e)
    (k : ℕ) : f.Fails (n + k) ls (e.shift k) := by
  cases h with
  | unclosed h => exact .unclosed h
  | @nested inner l g rest hin hl hg =>
    rw [ParseError.shift, show n + inner.length + 1 + k = n + k + inner.length + 1 by omega]
    exact .nested hin hl hg

end Fence

/-! ## Stuck lines -/

/-- Lines from after line `n` on that cannot be read: lines outside fences and fenced ranges up to
an opening fence that fails. -/
inductive Stuck : ℕ → List Line → ParseError → Prop
  | line {n l ls e} (hl : Fence.ofLine? l = none) (rest : Stuck (n + 1) ls e) : Stuck n (l :: ls) e
  | range {n ls e} (g : FencedLines) (rest : Stuck (n + g.height) ls e) : Stuck n (g.lines ++ ls) e
  | fails {n l ls f e} (hl : Fence.ofLine? l = some f) (h : f.Fails (n + 1) ls e) :
      Stuck n (l :: ls) e

/-- Stuck lines stay stuck behind lines with a layout. -/
theorem Layout.append_stuck {P : Line → Prop} {n : ℕ} {ls ms : List Line}
    {gs : List (ℕ × FencedLines)} {e : ParseError} (h : Layout P n ls gs)
    (h' : Stuck (n + ls.length) ms e) : Stuck n (ls ++ ms) e := by
  induction h with
  | nil => exact h'
  | @line n l ls gs hl hp rest ih =>
    rw [List.length_cons, show n + (ls.length + 1) = n + 1 + ls.length by omega] at h'
    exact .line hl (ih h')
  | @range n ls gs g rest ih =>
    rw [List.length_append, FencedLines.length_lines, ← Nat.add_assoc] at h'
    rw [List.append_assoc]
    exact .range g (ih h')

/-- Lines are either read to their end or stuck. -/
theorem exists_layout_or_stuck (n : ℕ) (ls : List Line) :
    (∃ gs, Layout (fun _ => True) n ls gs) ∨ ∃ e, Stuck n ls e := by
  -- a fenced range takes off several lines at once
  induction hk : ls.length using Nat.strong_induction_on generalizing n ls with
  | _ k ih =>
    cases ls with
    | nil => exact .inl ⟨[], .nil⟩
    | cons l ls =>
      rw [List.length_cons] at hk
      cases hl : Fence.ofLine? l with
      | none =>
        rcases ih ls.length (by omega) (n + 1) ls rfl with ⟨gs, h⟩ | ⟨e, h⟩
        · exact .inl ⟨gs, .line hl trivial h⟩
        · exact .inr ⟨e, .line hl h⟩
      | some f =>
        rcases f.forall_keepsOpen_or_exists ls with hall | ⟨inner, m, c, rest, rfl, hin, hm⟩
        · exact .inr ⟨_, .fails hl (.unclosed hall)⟩
        · by_cases hi : c.info = []
          · obtain ⟨hc, hcl⟩ := Fence.matching?_eq_some_iff.mp hm
            let g : FencedLines := ⟨l, inner, m, f, c, hl, hin, hc, hcl, hi⟩
            have hg : l :: (inner ++ m :: rest) = g.lines ++ rest := by
              simp [FencedLines.lines, g]
            rw [List.length_append, List.length_cons] at hk
            rw [hg]
            rcases ih rest.length (by omega) (n + g.height) rest rfl with ⟨gs, h⟩ | ⟨e, h⟩
            · exact .inl ⟨_, .range g h⟩
            · exact .inr ⟨e, .range g h⟩
          · exact .inr ⟨_, .fails hl (.nested hin hm hi)⟩

/-! ## Reading stuck lines -/

namespace Scan

variable {s t : Scan} {ls ms : List Line} {e : ParseError}

/-- Lines that go on like others fail like them. -/
theorem finish_error_of_run_eq {f : List Item → List Item}
    (hrun : s.run ls = (t.run ms).map fun r => (r.1, f r.2)) (h : t.finish ms = .error e) :
    s.finish ls = .error e := by
  unfold finish at h ⊢
  rw [hrun]
  cases hr : t.run ms with
  | error e' => simpa [hr, Except.map] using h
  | ok r =>
    simp only [hr, Except.map] at h ⊢
    cases hm : r.1.mode with
    | prose _ => simp [hm] at h
    | fenced first _ _ => simpa [hm] using h

theorem finish_error_of_step {next : Scan × Option Item} {l : Line} (hs : s.step l = .ok next)
    (h : next.1.finish ls = .error e) : s.finish (l :: ls) = .error e :=
  finish_error_of_run_eq (run_cons_ok hs ls) h

/-- An open fence that fails is reported. -/
theorem finish_fenced {f : Fence} {first : ℕ} (h : f.Fails first ls e) (title : Option Text) :
    finish ⟨first, .fenced first f [], title⟩ ls = .error e := by
  cases h with
  | unclosed h =>
    have hrun := run_inner f first title [] ls [] first h
    rw [List.append_nil] at hrun
    simp [finish, hrun, run]
  | @nested inner l g rest hin hl hg =>
    obtain ⟨hl, hcl⟩ := Fence.matching?_eq_some_iff.mp hl
    rw [finish, run_inner f first title (l :: rest) inner [] first hin]
    simp [run, step, stepFenced, hl, hcl, hg]

end Scan

/-- Reading stuck lines gives their error. -/
theorem Stuck.finish_eq {n : ℕ} {ls : List Line} {e : ParseError} (h : Stuck n ls e) {s : Scan}
    {open? : Option Paragraph} (hn : s.count = n) (hs : s.mode = .prose open?) :
    s.finish ls = .error e := by
  induction h generalizing s open? with
  | @line n l ls e hl rest ih =>
    subst hn
    obtain ⟨hcount, next?, hmode⟩ := Scan.stepProse_mode s (s.count + 1) open? hl
    exact Scan.finish_error_of_step (Scan.step_prose hs l) (ih hcount hmode)
  | @range n ls e g rest ih =>
    subst hn
    exact Scan.finish_error_of_run_eq (Scan.run_range hs g ls)
      (ih (s := ⟨s.count + g.height, .prose none, s.title⟩) rfl rfl)
  | @fails n l ls f e hl h =>
    subst hn
    refine Scan.finish_error_of_step (Scan.step_prose hs l) ?_
    rw [Scan.stepProse_fence s _ open? hl]
    exact Scan.finish_fenced h s.title

/-- Stuck lines are stuck alike wherever they stand. -/
theorem Stuck.shift {n : ℕ} {ls : List Line} {e : ParseError} (h : Stuck n ls e) (k : ℕ) :
    Stuck (n + k) ls (e.shift k) := by
  induction h with
  | @line n l ls e hl rest ih =>
    rw [show n + 1 + k = n + k + 1 by omega] at ih
    exact .line hl ih
  | @range n ls e g rest ih =>
    rw [show n + g.height + k = n + k + g.height by omega] at ih
    exact .range g ih
  | @fails n l ls f e hl h =>
    have := h.shift k
    rw [show n + 1 + k = n + k + 1 by omega] at this
    exact .fails hl this

namespace Outline

theorem parse_of_stuck {t : Text} {e : ParseError} (h : Stuck 0 (lines t) e) :
    Outline.parse t = .error e := by
  rw [Outline.parse, ofLines, h.finish_eq (s := Scan.start) rfl rfl]

/-- **The error of a document** is the one its lines are stuck with. -/
theorem parse_eq_error_iff {t : Text} {e : ParseError} :
    Outline.parse t = .error e ↔ Stuck 0 (lines t) e := by
  refine ⟨fun h => ?_, parse_of_stuck⟩
  rcases exists_layout_or_stuck 0 (lines t) with ⟨gs, hl⟩ | ⟨e', hl⟩
  · obtain ⟨o, ho, -⟩ := parse_of_layout hl
    rw [h] at ho
    cases ho
  · have := parse_of_stuck hl
    rw [h] at this
    cases this
    exact hl

end Outline

end Literate

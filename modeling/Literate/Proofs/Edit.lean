import Mathlib
import Literate.Edit
import Literate.Proofs.Outline.Parse
import Literate.Proofs.Text.Lines

/-!
# Edits one after the other

An edit keeps the lines before and after the range it replaces, but for newlines at the seams.  So a
second edit of other lines can be made first as well, at the lines where its range is then; an edit
of what the first one put in is the first one with other content; and putting back what the first
one replaced takes it back, unless it ended the last line of the text.

* `Edit.apply_inv`, `Edit.exists_apply`: the lines of an edited text.
* `Edit.apply_comm`: two edits of different lines.
* `Edit.apply_again`: an edit of what an edit put in.
* `Edit.apply_undo`: which edits fit, and what taking one back gives.
-/

namespace Literate

open Text

namespace Text

/-- A text is known by its lines. -/
theorem withEnds_injective {t u : Text} (h : withEnds t = withEnds u) : t = u := by
  rw [← flatten_withEnds t, h, flatten_withEnds]

theorem map_terminated_terminated (ls : List Text) :
    (ls.map Edit.terminated).map Edit.terminated = ls.map Edit.terminated := by
  rw [List.map_map]
  exact List.map_congr_left fun l _ => terminated_of_isWhole (isWhole_terminated l)

end Text

namespace Edit

variable {t u v : Text} {e e₁ e₂ : Edit}

/-- The edit `d` lines further down. -/
def shift (d : ℤ) (e : Edit) : Edit := ⟨e.startLine + d, e.endLine + d, e.content⟩

/-- An edit that was made has replaced lines of the text by its content; the lines before are
ended. -/
theorem apply_inv (h : e.apply t = .ok u) :
    ∃ before gone after, withEnds t = before ++ (gone ++ after) ∧
      e.startLine = before.length + 1 ∧ e.endLine = before.length + gone.length + 1 ∧
      withEnds u = before.map terminated ++ (fitted e.content after ++ after) := by
  unfold apply at h
  dsimp only at h
  split_ifs at h with hfits
  cases h
  obtain ⟨j, hj⟩ : ∃ j : ℕ, e.startLine = j + 1 := ⟨e.startLine.toNat - 1, by omega⟩
  obtain ⟨n, hn⟩ : ∃ n : ℕ, e.endLine = j + n + 1 := ⟨(e.endLine - e.startLine).toNat, by omega⟩
  have hstart : e.startLine.toNat - 1 = j := by omega
  have hend : e.endLine.toNat - 1 = j + n := by omega
  refine ⟨(withEnds t).take j, ((withEnds t).drop j).take n, (withEnds t).drop (j + n), ?_, ?_, ?_,
    ?_⟩
  · rw [← List.drop_drop, List.take_append_drop, List.take_append_drop]
  · rw [List.length_take, hj]
    omega
  · rw [List.length_take, List.length_take, List.length_drop, hn]
    omega
  · rw [withEnds_splice, hstart, hend, List.append_assoc]

/-- Lines of a text can be replaced by the edit of their range. -/
theorem exists_apply (before gone after : List Text)
    (ht : withEnds t = before ++ (gone ++ after)) (hstart : e.startLine = before.length + 1)
    (hend : e.endLine = before.length + gone.length + 1) :
    ∃ u, e.apply t = .ok u ∧
      withEnds u = before.map terminated ++ (fitted e.content after ++ after) := by
  have hlength := congrArg List.length ht
  rw [List.length_append, List.length_append] at hlength
  have hfits : 1 ≤ e.startLine ∧ e.startLine ≤ e.endLine ∧
      e.endLine ≤ (withEnds t).length + 1 := by omega
  have hj : e.startLine.toNat - 1 = before.length := by omega
  have hk : e.endLine.toNat - 1 = (before ++ gone).length := by
    rw [List.length_append]
    omega
  refine ⟨_, by rw [apply, if_pos hfits], ?_⟩
  rw [withEnds_splice, hj, hk, ht, List.take_left, ← List.append_assoc before gone,
    List.drop_left, List.append_assoc]

/-- **Two edits of different lines** can be made in both orders: the one further down moves by the
change in the number of lines. -/
theorem apply_comm (hwhole₁ : IsWhole e₁.content) (hwhole₂ : IsWhole e₂.content)
    (hu : e₁.apply t = .ok u) (hv : e₂.apply t = .ok v) (hle : e₁.endLine ≤ e₂.startLine) :
    ∃ w, (e₂.shift ((withEnds e₁.content).length - (e₁.endLine - e₁.startLine))).apply u = .ok w ∧
      e₁.apply v = .ok w := by
  obtain ⟨before₁, gone₁, after₁, ht₁, hstart₁, hend₁, hends₁⟩ := apply_inv hu
  obtain ⟨before₂, gone₂, after₂, ht₂, hstart₂, hend₂, hends₂⟩ := apply_inv hv
  rw [fitted_of_isWhole hwhole₁] at hends₁
  rw [fitted_of_isWhole hwhole₂] at hends₂
  -- the lines between the two ranges
  obtain ⟨between, hbefore, hafter⟩ : ∃ between, before₂ = before₁ ++ gone₁ ++ between ∧
      after₁ = between ++ (gone₂ ++ after₂) := by
    rw [ht₁, ← List.append_assoc] at ht₂
    rcases List.append_eq_append_iff.mp ht₂ with ⟨between, h1, h2⟩ | ⟨between, h1, h2⟩
    · exact ⟨between, h1, h2⟩
    · have hlength := congrArg List.length h1
      rw [List.length_append, List.length_append] at hlength
      obtain rfl : between = [] := List.length_eq_zero_iff.mp (by omega)
      exact ⟨[], by simpa using h1.symm, by simpa using h2.symm⟩
  subst hbefore hafter
  obtain ⟨w, hw, hendsw⟩ := exists_apply (t := v) (e := e₁)
    (before₁.map terminated) (gone₁.map terminated)
    (between.map terminated ++ (withEnds e₂.content ++ after₂))
    (by rw [hends₂, List.map_append, List.map_append]; simp only [List.append_assoc])
    (by rw [List.length_map, hstart₁]) (by rw [List.length_map, List.length_map, hend₁])
  obtain ⟨w', hw', hendsw'⟩ := exists_apply (t := u)
    (e := e₂.shift ((withEnds e₁.content).length - (e₁.endLine - e₁.startLine)))
    (before₁.map terminated ++ withEnds e₁.content ++ between) gone₂ after₂
    (by rw [hends₁]; simp only [List.append_assoc])
    (by simp only [shift, List.length_append, List.length_map] at hstart₂ ⊢; omega)
    (by simp only [shift, List.length_append, List.length_map] at hend₂ ⊢; omega)
  rw [fitted_of_isWhole hwhole₁] at hendsw
  simp only [shift, fitted_of_isWhole hwhole₂] at hendsw'
  refine ⟨w, ?_, hw⟩
  have heq : w' = w := withEnds_injective (by
    rw [hendsw, hendsw', List.map_append, List.map_append, map_terminated_terminated,
      hwhole₁.map_terminated]
    simp only [List.append_assoc])
  rw [hw', heq]

/-- **An edit of what an edit put in** is the first edit with other content. -/
theorem apply_again {gap new new' : Text} {first last : ℤ} (hgap : IsWhole gap) (hnew : IsWhole new)
    (hnew' : IsWhole new') (hu : apply t ⟨first, last, gap ++ new⟩ = .ok u) :
    ∃ w, apply u ⟨first + (withEnds gap).length,
        first + (withEnds gap).length + (withEnds new).length, new'⟩ = .ok w ∧
      apply t ⟨first, last, gap ++ new'⟩ = .ok w := by
  obtain ⟨before, gone, after, ht, hstart, hend, hends⟩ := apply_inv hu
  simp only [fitted_of_isWhole (hgap.append hnew)] at hstart hend hends
  rw [withEnds_append hgap] at hends
  obtain ⟨w, hw, hendsw⟩ := exists_apply (e := ⟨first, last, gap ++ new'⟩)
    before gone after ht hstart hend
  obtain ⟨w', hw', hendsw'⟩ := exists_apply (t := u) (e := ⟨first + (withEnds gap).length,
      first + (withEnds gap).length + (withEnds new).length, new'⟩)
    (before.map terminated ++ withEnds gap) (withEnds new) after
    (by rw [hends]; simp only [List.append_assoc])
    (by simp only [List.length_append, List.length_map]; omega)
    (by simp only [List.length_append, List.length_map]; omega)
  rw [fitted_of_isWhole (hgap.append hnew')] at hendsw
  rw [fitted_of_isWhole hnew'] at hendsw'
  refine ⟨w, ?_, hw⟩
  have heq : w' = w := withEnds_injective (by
    rw [hendsw, hendsw', List.map_append, map_terminated_terminated, hgap.map_terminated,
      withEnds_append hgap]
    simp only [List.append_assoc])
  rw [hw', heq]

/-! ## Taking an edit back -/

/-- The lines that an edit replaces, put together. -/
def replaced (t : Text) (e : Edit) : Text :=
  (((withEnds t).drop (e.startLine.toNat - 1)).take (e.endLine - e.startLine).toNat).flatten

/-- The edit that puts what an edit replaced in place of what it put in. -/
def undo (t : Text) (e : Edit) : Edit :=
  ⟨e.startLine, e.startLine + (lines e.content).length, e.replaced t⟩

/-- The replaced lines are the lines of what is put back, whatever follows them. -/
theorem fitted_gone {before gone after : List Text} (h : withEnds t = before ++ (gone ++ after)) :
    fitted gone.flatten after = gone := by
  have hends : withEnds gone.flatten = gone := by
    have hgone : gone = ((withEnds t).take (before.length + gone.length)).drop before.length := by
      rw [h, List.take_length_add_append, List.drop_left, List.take_left]
    have hfront := withEnds_drop ((withEnds t).take (before.length + gone.length)).flatten
      before.length
    rwa [withEnds_take, ← hgone] at hfront
  rw [fitted, hends]
  split_ifs with hafter
  · rfl
  · rw [← List.append_assoc] at h
    have hended := getLast?_of_withEnds_append h hafter
    exact map_terminated_of_ended fun l hl => hended l (List.mem_append_right before hl)

/-- **Edits can be taken back.**  An edit fits exactly when its range lies within the lines of the
text, and otherwise the error holds the range and their number; that is the number of lines the
outline has.  When an edit was made, putting back the lines that it replaced gives the text of
before, but for a newline when it was put behind a last line that had none. -/
theorem apply_undo (t : Text) (e : Edit) :
    (∀ error, e.apply t = .error error ↔
      ¬(1 ≤ e.startLine ∧ e.startLine ≤ e.endLine ∧ e.endLine ≤ (lines t).length + 1) ∧
        error = ⟨e.startLine, e.endLine, (lines t).length⟩) ∧
    (∀ o, Outline.parse t = .ok o → o.lineCount = (lines t).length) ∧
    ∀ u, e.apply t = .ok u → (e.undo t).apply u =
      .ok (if e.startLine = (lines t).length + 1 ∧ t ≠ [] ∧ t.getLast? ≠ some '\n' then t ++ ['\n']
        else t) := by
  refine ⟨fun error => ?_, fun o ho => ?_, fun u hu => ?_⟩
  · rw [apply, length_lines]
    split_ifs with hfits
    · simp [hfits]
    · simp [hfits, eq_comm]
  · obtain ⟨last, items, -, rfl⟩ := Outline.parse_eq_ok_iff.mp ho
    rfl
  · obtain ⟨before, gone, after, ht, hstart, hend, hends⟩ := apply_inv hu
    have hreplaced : e.replaced t = gone.flatten := by
      have hfront : e.startLine.toNat - 1 = before.length := by omega
      have hcount : (e.endLine - e.startLine).toNat = gone.length := by omega
      rw [replaced, ht, hfront, hcount, List.drop_left, List.take_left]
    obtain ⟨v, hv, hendsv⟩ := exists_apply (t := u) (e := e.undo t) (before.map terminated)
      (fitted e.content after) after hends (by rw [List.length_map]; exact hstart)
      (by rw [List.length_map, length_fitted, undo, hstart]; ring)
    rw [undo, hreplaced, fitted_gone ht, map_terminated_terminated] at hendsv
    rw [hv, Except.ok.injEq]
    have hlength := congrArg List.length ht
    rw [List.length_append, List.length_append] at hlength
    by_cases hlast : gone ++ after = []
    · -- what was put behind the last line ended it
      rw [hlast, List.append_nil] at ht hendsv
      have hline : e.startLine = (lines t).length + 1 := by rw [length_lines, ht, hstart]
      have hterminated : v = terminated t := withEnds_injective (by
        rw [hendsv, withEnds_terminated, ht])
      simp only [hterminated, terminated, hline, true_and]
      by_cases hnil : t = [] <;> by_cases hnewline : t.getLast? = some '\n' <;> simp [*]
    · have hline : ¬ e.startLine = (lines t).length + 1 := by
        have := List.length_pos_of_ne_nil hlast
        rw [List.length_append] at this
        rw [length_lines, hstart]
        omega
      rw [if_neg fun h => hline h.1]
      refine withEnds_injective ?_
      rw [hendsv, map_terminated_of_ended (getLast?_of_withEnds_append ht hlast), ht]

/-- A line in the middle is replaced by two and put back; what is put behind the last line and taken
away again leaves its newline there. -/
theorem apply_undo_unterminated :
    let t := "a\nb\nc".toList
    let middle : Edit := ⟨2, 3, "x\ny".toList⟩
    let behind : Edit := ⟨4, 4, "x".toList⟩
    (middle.apply t = .ok "a\nx\ny\nc".toList ∧ middle.undo t = ⟨2, 4, "b\n".toList⟩ ∧
      (middle.undo t).apply "a\nx\ny\nc".toList = .ok t) ∧
    behind.apply t = .ok "a\nb\nc\nx".toList ∧ behind.undo t = ⟨4, 5, []⟩ ∧
      (behind.undo t).apply "a\nb\nc\nx".toList = .ok "a\nb\nc\n".toList := by
  intro t middle behind
  have hmiddle : middle.apply t = .ok "a\nx\ny\nc".toList := by decide +kernel
  have hbehind : behind.apply t = .ok "a\nb\nc\nx".toList := by decide +kernel
  exact ⟨⟨hmiddle, by decide +kernel, (apply_undo t middle).2.2 _ hmiddle⟩, hbehind,
    by decide +kernel, (apply_undo t behind).2.2 _ hbehind⟩

end Edit

end Literate

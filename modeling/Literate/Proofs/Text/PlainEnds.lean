import Mathlib
import Literate.Proofs.Text.Lines

/-!
# Writing every line end as a newline

`plainEnds` leaves no carriage return and changes nothing where there is none.  It works on the
pieces of a text one by one, unless a cut goes through a carriage return and its newline; a cut of
the result always comes from such a cut.

* `return_notMem_plainEnds`, `plainEnds_of_notMem`: texts without carriage returns.
* `plainEnds_append`: two pieces, the first one whole.
* `plainEnds_eq_append_inv`: a cut of the result.
-/

namespace Literate.Text

variable {a b t : Text}

theorem plainEnds_cons {c : Char} (hc : c ≠ '\r') (t : Text) :
    plainEnds (c :: t) = c :: plainEnds t := by
  rw [plainEnds]
  · intro r hr
    exact absurd hr hc
  · exact hc

theorem plainEnds_return (h : t.head? ≠ some '\n') :
    plainEnds ('\r' :: t) = '\n' :: plainEnds t := by
  rw [plainEnds]
  rintro r rfl
  exact h rfl

/-- No carriage return is left. -/
theorem return_notMem_plainEnds (t : Text) : '\r' ∉ plainEnds t := by
  fun_induction plainEnds t with
  | case1 => simp
  | case2 t ih => simp [ih]
  | case3 t hnot ih => simp [ih]
  | case4 c t hnot hc ih => simp_all [Ne.symm]

/-- A text without carriage returns stays. -/
theorem plainEnds_of_notMem (h : '\r' ∉ t) : plainEnds t = t := by
  induction t with
  | nil => rfl
  | cons c t ih =>
    rw [List.mem_cons, not_or] at h
    rw [plainEnds_cons (Ne.symm h.1), ih h.2]

/-! ## Pieces -/

/-- Two pieces, unless the cut goes through a carriage return and its newline. -/
theorem plainEnds_append (h : a.getLast? = some '\r' → b.head? ≠ some '\n') :
    plainEnds (a ++ b) = plainEnds a ++ plainEnds b := by
  have hlast : ∀ (c : Char) {r : Text}, r.getLast? = some '\r' → (c :: r).getLast? = some '\r' := by
    intro c r hr
    simp [List.getLast?_cons, hr]
  fun_induction plainEnds a with
  | case1 => rfl
  | case2 r ih =>
    rw [List.cons_append, List.cons_append, plainEnds, ih fun hr => h (hlast _ (hlast _ hr))]
    rfl
  | case3 r hnot ih =>
    have hhead : (r ++ b).head? ≠ some '\n' := by
      cases r with
      | nil => exact h rfl
      | cons d r =>
        intro hd
        obtain rfl : d = '\n' := by simpa using hd
        exact hnot r rfl
    rw [List.cons_append, plainEnds_return hhead, ih fun hr => h (hlast _ hr)]
    rfl
  | case4 c r hnot hc ih =>
    rw [List.cons_append, plainEnds_cons hc, ih fun hr => h (hlast _ hr)]
    rfl

theorem IsWhole.getLast?_ne (h : IsWhole a) : a.getLast? ≠ some '\r' := by
  rcases h with rfl | h
  · simp
  · simp [h]

theorem IsWhole.plainEnds_append (h : IsWhole a) (b : Text) :
    plainEnds (a ++ b) = plainEnds a ++ plainEnds b :=
  Text.plainEnds_append fun hlast => absurd hlast h.getLast?_ne

/-- A whole text stays whole. -/
theorem IsWhole.plainEnds (h : IsWhole a) : IsWhole (plainEnds a) := by
  rcases h with rfl | h
  · exact .nil
  · obtain ⟨s, rfl⟩ := List.getLast?_eq_some_iff.mp h
    by_cases hs : s.getLast? = some '\r'
    · obtain ⟨u, rfl⟩ := List.getLast?_eq_some_iff.mp hs
      rw [List.append_assoc, Text.plainEnds_append (by simp)]
      exact .append_newline _
    · rw [Text.plainEnds_append fun hlast => absurd hlast hs]
      exact .append_newline _

/-- A cut of the result comes from a cut of the text. -/
theorem plainEnds_eq_append_inv (h : plainEnds t = a ++ b) :
    ∃ a' b', t = a' ++ b' ∧ plainEnds a' = a ∧ plainEnds b' = b := by
  fun_induction plainEnds t generalizing a with
  | case1 =>
    obtain ⟨rfl, rfl⟩ := List.append_eq_nil_iff.mp h.symm
    exact ⟨[], [], rfl, rfl, rfl⟩
  | case2 r ih =>
    cases a with
    | nil => exact ⟨[], '\r' :: '\n' :: r, rfl, rfl, h⟩
    | cons c a =>
      obtain ⟨rfl, htail⟩ := List.cons.inj h
      obtain ⟨a', b', rfl, rfl, hb⟩ := ih htail
      exact ⟨'\r' :: '\n' :: a', b', rfl, rfl, hb⟩
  | case3 r hnot ih =>
    cases a with
    | nil => exact ⟨[], '\r' :: r, rfl, rfl, by rw [plainEnds]; exacts [h, hnot]⟩
    | cons c a =>
      obtain ⟨rfl, htail⟩ := List.cons.inj h
      obtain ⟨a', b', rfl, rfl, hb⟩ := ih htail
      have hhead : a'.head? ≠ some '\n' := by
        intro hd
        obtain ⟨u, rfl⟩ := List.head?_eq_some_iff.mp hd
        exact hnot (u ++ b') rfl
      exact ⟨'\r' :: a', b', rfl, plainEnds_return hhead, hb⟩
  | case4 c r hnot hc ih =>
    cases a with
    | nil => exact ⟨[], c :: r, rfl, rfl, by rw [plainEnds_cons hc]; exact h⟩
    | cons d a =>
      obtain ⟨rfl, htail⟩ := List.cons.inj h
      obtain ⟨a', b', rfl, rfl, hb⟩ := ih htail
      exact ⟨c :: a', b', rfl, plainEnds_cons hc a', hb⟩

/-! ## Ending the last line -/

open Edit (terminated)

theorem count_return_terminated (t : Text) : (terminated t).count '\r' = t.count '\r' := by
  by_cases h : IsWhole t
  · rw [terminated_of_isWhole h]
  · rw [terminated_of_not_isWhole h, List.count_append]
    simp

theorem return_notMem_terminated (h : '\r' ∉ t) : '\r' ∉ terminated t := by
  rw [← List.count_eq_zero] at h ⊢
  rw [count_return_terminated, h]

end Literate.Text

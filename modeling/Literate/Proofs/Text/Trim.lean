import Mathlib
import Literate.Text.Basic

/-!
# Trimming

Trimming drops blanks at the ends of a text and nothing else.

* `dropEndWhile_eq`: dropping at the end is dropping at the front of the reversed text.
* `trim_sublist`: what is left stands in the text in its order.
* `startsSolid_trimStart`: a trimmed text does not begin with a blank.
* `trimEnd_append`: trimming the end stops at a character that is not blank.
* `trim_blank_append`, `trim_trimEnd`: blanks at the ends do not matter to what is left.
* `trim_eq_self_iff`, `trim_trim`: texts with no blanks at the ends.
-/

namespace Literate.Text

theorem dropEndWhile_eq {α : Type} (p : α → Bool) (t : List α) :
    dropEndWhile p t = t.rdropWhile p := by
  induction t with
  | nil => rfl
  | cons c r ih =>
    have hcons : (c :: r).rdropWhile p =
        if (r.rdropWhile p).isEmpty then (if p c then [] else [c]) else c :: r.rdropWhile p := by
      rw [List.rdropWhile, List.reverse_cons, List.dropWhile_append, List.rdropWhile,
        List.isEmpty_reverse]
      split_ifs <;> simp [*]
    rw [dropEndWhile, ih, hcons]
    cases r.rdropWhile p <;> rfl

theorem dropEndWhile_isPrefix {α : Type} (p : α → Bool) (t : List α) : dropEndWhile p t <+: t := by
  rw [dropEndWhile_eq]
  exact List.rdropWhile_prefix p t

theorem isBlank_of_isGap {c : Char} (h : isGap c = true) : isBlank c = true := by
  rw [isGap, Bool.or_eq_true, decide_eq_true_iff, decide_eq_true_iff] at h
  rcases h with rfl | rfl <;> decide

/-- A text that does not begin with a blank. -/
def StartsSolid (t : Text) : Prop := ∀ c ∈ t.head?, isBlank c = false

theorem startsSolid_cons {c : Char} (h : isBlank c = false) (t : Text) : StartsSolid (c :: t) := by
  simpa [StartsSolid] using h

theorem startsSolid_trimStart (t : Text) : StartsSolid (trimStart t) := by
  intro c hc
  have := List.head?_dropWhile_not isBlank t
  rw [← trimStart, Option.mem_def.mp hc] at this
  simpa using this

theorem trimStart_of_startsSolid {t : Text} (h : StartsSolid t) : trimStart t = t := by
  cases t with
  | nil => rfl
  | cons c t => exact List.dropWhile_cons_of_neg (by simp [h c rfl])

/-- What trimming takes off the front is blank. -/
theorem exists_eq_append_trimStart (t : Text) :
    ∃ bs, t = bs ++ trimStart t ∧ ∀ c ∈ bs, isBlank c = true :=
  ⟨t.takeWhile isBlank, List.takeWhile_append_dropWhile.symm,
    fun _ hc => List.mem_takeWhile_imp hc⟩

theorem trimStart_blank_append {bs : Text} (h : ∀ c ∈ bs, isBlank c = true) (t : Text) :
    trimStart (bs ++ t) = trimStart t := List.dropWhile_append_of_pos h

/-- Blanks behind a text stay when its front is trimmed, unless nothing else is there. -/
theorem trimStart_append_blank {bs : Text} (h : ∀ c ∈ bs, isBlank c = true) (t : Text) :
    trimStart (t ++ bs) = trimStart t ++ bs ∨ trimStart t = [] ∧ trimStart (t ++ bs) = [] := by
  rw [trimStart, trimStart, List.dropWhile_append]
  split_ifs with hempty
  · exact .inr ⟨List.isEmpty_iff.mp hempty, List.dropWhile_eq_nil_iff.mpr h⟩
  · exact .inl rfl

theorem reverse_trimEnd (t : Text) : (trimEnd t).reverse = trimStart t.reverse := by
  rw [trimEnd, dropEndWhile_eq, List.rdropWhile, List.reverse_reverse, trimStart]

theorem trimEnd_isPrefix (t : Text) : trimEnd t <+: t := dropEndWhile_isPrefix isBlank t

theorem trim_sublist (t : Text) : (trim t).Sublist t :=
  (List.dropWhile_sublist isBlank).trans (trimEnd_isPrefix t).sublist

/-- Trimming the end stops at a character that is not blank. -/
theorem trimEnd_append {c : Char} (h : isBlank c = false) (a b : Text) :
    trimEnd (a ++ c :: b) = a ++ c :: trimEnd b := by
  have hrev : (a ++ c :: b).reverse = b.reverse ++ c :: a.reverse := by simp
  rw [← List.reverse_inj, reverse_trimEnd, hrev, trimStart, List.dropWhile_append]
  have hb := reverse_trimEnd b
  rw [trimStart] at hb
  split_ifs with hempty
  · rw [List.isEmpty_iff.mp hempty, List.reverse_eq_nil_iff] at hb
    rw [hb, List.dropWhile_cons_of_neg (by simp [h])]
    simp
  · rw [← hb]
    simp

theorem trimEnd_trimEnd (t : Text) : trimEnd (trimEnd t) = trimEnd t := by
  rw [← List.reverse_inj, reverse_trimEnd, reverse_trimEnd,
    trimStart_of_startsSolid (startsSolid_trimStart _)]

theorem trim_trimEnd (t : Text) : trim (trimEnd t) = trim t := by
  rw [trim, trim, trimEnd_trimEnd]

/-- Blanks behind a text do not matter. -/
theorem trimEnd_append_blank {bs : Text} (h : ∀ c ∈ bs, isBlank c = true) (t : Text) :
    trimEnd (t ++ bs) = trimEnd t := by
  have hrev : ∀ c ∈ bs.reverse, isBlank c = true := fun c hc => h c (List.mem_reverse.mp hc)
  rw [← List.reverse_inj, reverse_trimEnd, reverse_trimEnd, List.reverse_append,
    trimStart_blank_append hrev]

theorem trim_blank_append {bs : Text} (h : ∀ c ∈ bs, isBlank c = true) (t : Text) :
    trim (bs ++ t) = trim t := by
  have hrev : (trimEnd (bs ++ t)).reverse = trimStart (t.reverse ++ bs.reverse) := by
    rw [reverse_trimEnd, List.reverse_append]
  have hblank : ∀ c ∈ bs.reverse, isBlank c = true := fun c hc => h c (List.mem_reverse.mp hc)
  rw [trim, trim]
  rcases trimStart_append_blank hblank t.reverse with happ | ⟨hnil, happ⟩
  · rw [happ, ← reverse_trimEnd, ← List.reverse_append, List.reverse_inj] at hrev
    rw [hrev, trimStart_blank_append h]
  · rw [happ, List.reverse_eq_nil_iff] at hrev
    rw [← reverse_trimEnd, List.reverse_eq_nil_iff] at hnil
    rw [hrev, hnil]

/-! ## Trimmed texts -/

theorem StartsSolid.append {a : Text} (ha : StartsSolid a) (hne : a ≠ []) (b : Text) :
    StartsSolid (a ++ b) := by
  rwa [StartsSolid, List.head?_append_of_ne_nil _ hne]

theorem StartsSolid.of_isPrefix {s t : Text} (h : StartsSolid t) (hs : s <+: t) : StartsSolid s := by
  obtain ⟨b, rfl⟩ := hs
  cases s with
  | nil => simp [StartsSolid]
  | cons c s => exact h

/-- Trimming changes a text exactly when it begins or ends with a blank. -/
theorem trim_eq_self_iff {t : Text} : trim t = t ↔ StartsSolid t ∧ StartsSolid t.reverse := by
  constructor
  · intro h
    have hend : trimEnd t = t := by
      refine (trimEnd_isPrefix t).eq_of_length_le ?_
      conv_lhs => rw [← h]
      exact length_trimStart_le (trimEnd t)
    refine ⟨h ▸ startsSolid_trimStart (trimEnd t), ?_⟩
    rw [← hend, reverse_trimEnd]
    exact startsSolid_trimStart t.reverse
  · rintro ⟨hstart, hend⟩
    have htrimEnd : trimEnd t = t := by
      rw [← List.reverse_inj, reverse_trimEnd, trimStart_of_startsSolid hend]
    rw [trim, htrimEnd, trimStart_of_startsSolid hstart]

/-- What is left of a text does not end with a blank. -/
theorem startsSolid_reverse_trim (t : Text) : StartsSolid (trim t).reverse := by
  obtain ⟨bs, hbs, -⟩ := exists_eq_append_trimStart (trimEnd t)
  have hend : StartsSolid (trimEnd t).reverse := by
    rw [reverse_trimEnd]
    exact startsSolid_trimStart t.reverse
  rw [hbs, List.reverse_append, StartsSolid] at hend
  by_cases hnil : trim t = []
  · simp [hnil, StartsSolid]
  · rwa [← trim, List.head?_append_of_ne_nil _ (by simpa using hnil)] at hend

theorem trim_trim (t : Text) : trim (trim t) = trim t :=
  trim_eq_self_iff.mpr ⟨startsSolid_trimStart _, startsSolid_reverse_trim t⟩

/-- Something is left of a text that is not blank. -/
theorem trim_ne_nil {t : Text} (h : allBlank t = false) : trim t ≠ [] := by
  obtain ⟨c, hc, hsolid⟩ := List.all_eq_false.mp h
  obtain ⟨a, b, rfl⟩ := List.append_of_mem hc
  rw [trim, trimEnd_append (by simpa using hsolid), trimStart, ne_eq, List.dropWhile_eq_nil_iff]
  exact fun hblank => hsolid (hblank c (by simp))

end Literate.Text

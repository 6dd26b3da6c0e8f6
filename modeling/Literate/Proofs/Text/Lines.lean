import Mathlib
import Literate.Edit

/-!
# Texts as lines

`withEnds` cuts a text into lines that keep their terminator; put together they are the text again,
and texts of whole lines can be cut and joined line by line.

* `flatten_withEnds`: the lines put together are the text.
* `withEnds_append`, `withEnds_take`, `withEnds_drop`: cutting after whole lines.
* `withEnds_terminated`: ending the last line adds no line.
* `lines_flatMap`, `lines_flatMap_append`: lines written one after the other.
* `join_append_newline`, `lines_join`: lines put together with newlines.
* `getLast?_of_withEnds_append`: only the last line may lack its newline.
* `withEnds_splice`, `lines_splice`: the lines of a text put together from lines.
-/

namespace Literate.Text

/-- A text that does not end within a line. -/
def IsWhole (t : Text) : Prop := t = [] ∨ t.getLast? = some '\n'

theorem IsWhole.nil : IsWhole [] := .inl rfl

theorem IsWhole.append_newline (t : Text) : IsWhole (t ++ ['\n']) := .inr (by simp)

theorem IsWhole.append {a b : Text} (ha : IsWhole a) (hb : IsWhole b) : IsWhole (a ++ b) := by
  rcases hb with rfl | hb
  · simpa using ha
  · right; simp [List.getLast?_append, hb]

theorem IsWhole.tail {c d : Char} {t : Text} (h : IsWhole (c :: d :: t)) : IsWhole (d :: t) := by
  rcases h with h | h
  · cases h
  · right; simpa [List.getLast?_cons_cons] using h

/-! ## Cutting into lines -/

theorem withEnds_newline (t : Text) : withEnds ('\n' :: t) = ['\n'] :: withEnds t := by
  simp [withEnds]

theorem withEnds_eq_nil_iff {t : Text} : withEnds t = [] ↔ t = [] := by
  cases t with
  | nil => simp [withEnds]
  | cons c t =>
    rw [withEnds]
    split_ifs
    · simp
    · cases withEnds t <;> simp

theorem withEnds_cons {c : Char} (hc : c ≠ '\n') {t : Text} {l : Text} {ls : List Text}
    (h : withEnds t = l :: ls) : withEnds (c :: t) = (c :: l) :: ls := by
  simp [withEnds, hc, h]

theorem withEnds_singleton (c : Char) : withEnds [c] = [[c]] := by
  by_cases hc : c = '\n' <;> simp [withEnds, hc]

/-- The lines of a text are not empty. -/
theorem exists_withEnds_cons (c : Char) (t : Text) :
    ∃ l ls, withEnds (c :: t) = (c :: l) :: ls := by
  rw [withEnds]
  split_ifs with hc
  · exact ⟨[], _, by rw [hc]⟩
  · cases withEnds t with
    | nil => exact ⟨[], [], rfl⟩
    | cons l ls => exact ⟨l, ls, rfl⟩

/-- **The lines put together are the text.** -/
theorem flatten_withEnds (t : Text) : (withEnds t).flatten = t := by
  induction t with
  | nil => rfl
  | cons c t ih =>
    by_cases hc : c = '\n'
    · rw [hc, withEnds_newline, List.flatten_cons, ih]; rfl
    · cases hw : withEnds t with
      | nil =>
        obtain rfl := withEnds_eq_nil_iff.mp hw
        rw [withEnds_singleton]; rfl
      | cons l ls =>
        rw [withEnds_cons hc hw, ← ih, hw]
        simp

/-- After whole lines a text can be cut. -/
theorem withEnds_append {a : Text} (ha : IsWhole a) (b : Text) :
    withEnds (a ++ b) = withEnds a ++ withEnds b := by
  induction a with
  | nil => simp [withEnds]
  | cons c a ih =>
    cases a with
    | nil =>
      have hc : c = '\n' := by simpa [IsWhole] using ha
      rw [hc, List.singleton_append, withEnds_newline]
      rfl
    | cons d a =>
      have ih := ih ha.tail
      by_cases hc : c = '\n'
      · rw [hc, List.cons_append, withEnds_newline, ih, withEnds_newline]; rfl
      · obtain ⟨l, ls, hw⟩ := exists_withEnds_cons d a
        rw [List.cons_append, withEnds_cons hc (by rw [ih, hw]; rfl), withEnds_cons hc hw]
        rfl

/-- A line is cut off at its newline. -/
theorem withEnds_line {l : Text} (hl : '\n' ∉ l) (t : Text) :
    withEnds (l ++ '\n' :: t) = (l ++ ['\n']) :: withEnds t := by
  induction l with
  | nil => exact withEnds_newline t
  | cons c l ih =>
    simp only [List.mem_cons, not_or] at hl
    exact withEnds_cons (Ne.symm hl.1) (ih hl.2)

/-- A line that is not the last one is ended. -/
theorem getLast?_of_withEnds_append {t : Text} {ls ms : List Text} (h : withEnds t = ls ++ ms)
    (hne : ms ≠ []) : ∀ l ∈ ls, l.getLast? = some '\n' := by
  induction t generalizing ls with
  | nil =>
    have hnil : ls ++ ms = [] := h.symm
    exact absurd (List.append_eq_nil_iff.mp hnil).2 hne
  | cons c t ih =>
    cases ls with
    | nil => simp
    | cons l ls =>
      rw [List.cons_append] at h
      by_cases hc : c = '\n'
      · rw [hc, withEnds_newline] at h
        obtain ⟨rfl, hrest⟩ := List.cons.inj h
        exact List.forall_mem_cons.mpr ⟨rfl, ih hrest⟩
      · cases hw : withEnds t with
        | nil =>
          obtain rfl := withEnds_eq_nil_iff.mp hw
          rw [withEnds_singleton] at h
          have hnil : ls ++ ms = [] := (List.cons.inj h).2.symm
          exact absurd (List.append_eq_nil_iff.mp hnil).2 hne
        | cons m more =>
          rw [withEnds_cons hc hw] at h
          obtain ⟨rfl, rfl⟩ := List.cons.inj h
          have hended : ∀ l ∈ m :: ls, l.getLast? = some '\n' := ih hw
          obtain ⟨hm, hmore⟩ := List.forall_mem_cons.mp hended
          exact List.forall_mem_cons.mpr ⟨by rw [List.getLast?_cons, hm]; rfl, hmore⟩

theorem withEnds_take (t : Text) (k : ℕ) :
    withEnds ((withEnds t).take k).flatten = (withEnds t).take k := by
  induction t generalizing k with
  | nil => simp [withEnds]
  | cons c t ih =>
    cases k with
    | zero => rfl
    | succ k =>
      by_cases hc : c = '\n'
      · rw [hc, withEnds_newline, List.take_succ_cons, List.flatten_cons, List.singleton_append,
          withEnds_newline, ih]
      · cases hw : withEnds t with
        | nil =>
          obtain rfl := withEnds_eq_nil_iff.mp hw
          rw [withEnds_singleton, List.take_succ_cons, List.take_nil, List.flatten_cons]
          exact withEnds_singleton c
        | cons l ls =>
          have ih := ih (k + 1)
          rw [hw, List.take_succ_cons, List.flatten_cons] at ih
          rw [withEnds_cons hc hw, List.take_succ_cons, List.flatten_cons, List.cons_append,
            withEnds_cons hc ih]

theorem withEnds_drop (t : Text) (k : ℕ) :
    withEnds ((withEnds t).drop k).flatten = (withEnds t).drop k := by
  induction t generalizing k with
  | nil => simp [withEnds]
  | cons c t ih =>
    cases k with
    | zero => rw [List.drop_zero, flatten_withEnds]
    | succ k =>
      by_cases hc : c = '\n'
      · rw [hc, withEnds_newline, List.drop_succ_cons, ih]
      · cases hw : withEnds t with
        | nil =>
          obtain rfl := withEnds_eq_nil_iff.mp hw
          rw [withEnds_singleton, List.drop_succ_cons, List.drop_nil]
          rfl
        | cons l ls =>
          have ih := ih (k + 1)
          rw [hw, List.drop_succ_cons] at ih
          rw [withEnds_cons hc hw, List.drop_succ_cons, ih]

/-- A text of whole lines has a newline at the end of each. -/
theorem withEnds_append_newline (t : Text) :
    withEnds (t ++ ['\n']) = (pieces '\n' t).map (· ++ ['\n']) := by
  induction t with
  | nil => rfl
  | cons c t ih =>
    by_cases hc : c = '\n'
    · rw [hc, List.cons_append, withEnds_newline, ih]
      simp [pieces]
    · cases hp : pieces '\n' t with
      | nil =>
        have := withEnds_eq_nil_iff.mp (ih.trans (by rw [hp]; rfl))
        simp at this
      | cons p ps =>
        rw [List.cons_append, withEnds_cons hc (ih.trans (by rw [hp]; rfl))]
        simp [pieces, hc, hp]

/-! ## The content of lines -/

theorem dropLast?_append (c : Char) (t : Text) : dropLast? c (t ++ [c]) = t := by
  induction t with
  | nil => simp [dropLast?]
  | cons d t ih =>
    cases t with
    | nil => simp [dropLast?]
    | cons e t => simpa [dropLast?] using ih

theorem dropLast?_of_getLast?_ne {c : Char} {t : Text} (h : t.getLast? ≠ some c) :
    dropLast? c t = t := by
  induction t with
  | nil => rfl
  | cons d t ih =>
    cases t with
    | nil => simpa [dropLast?] using h
    | cons e t => simpa [dropLast?] using ih (by simpa [List.getLast?_cons_cons] using h)

theorem dropLast?_cases (c : Char) (t : Text) :
    t = dropLast? c t ∨ t = dropLast? c t ++ [c] := by
  by_cases h : t.getLast? = some c
  · right
    obtain ⟨s, rfl⟩ : ∃ s, t = s ++ [c] := List.getLast?_eq_some_iff.mp h
    rw [dropLast?_append]
  · left
    rw [dropLast?_of_getLast?_ne h]

theorem dropLast?_isPrefix (c : Char) (t : Text) : dropLast? c t <+: t := by
  rcases dropLast?_cases c t with h | h
  · rw [← h]
  · exact ⟨[c], h.symm⟩

theorem content_append_newline (l : Text) : content (l ++ ['\n']) = dropLast? '\r' l := by
  rw [content, dropLast?_append]

theorem lines_append {a : Text} (ha : IsWhole a) (b : Text) :
    lines (a ++ b) = lines a ++ lines b := by
  rw [lines, withEnds_append ha, List.map_append]; rfl

theorem lines_line {l : Text} (hl : '\n' ∉ l) (t : Text) :
    lines (l ++ '\n' :: t) = dropLast? '\r' l :: lines t := by
  rw [lines, withEnds_line hl, List.map_cons, content_append_newline]; rfl

theorem lines_append_newline (t : Text) :
    lines (t ++ ['\n']) = (pieces '\n' t).map (dropLast? '\r') := by
  rw [lines, withEnds_append_newline, List.map_map]
  exact List.map_congr_left fun p _ => content_append_newline p

theorem length_lines (t : Text) : (lines t).length = (withEnds t).length := by simp [lines]

/-- A line holds no newline before its end. -/
theorem exists_of_mem_withEnds {t l : Text} (h : l ∈ withEnds t) :
    ∃ body, '\n' ∉ body ∧ (l = body ∨ l = body ++ ['\n']) := by
  induction t generalizing l with
  | nil => cases h
  | cons c t ih =>
    by_cases hc : c = '\n'
    · rw [hc, withEnds_newline] at h
      rcases List.mem_cons.mp h with rfl | h
      · exact ⟨[], by simp, .inr rfl⟩
      · exact ih h
    · cases hw : withEnds t with
      | nil =>
        obtain rfl := withEnds_eq_nil_iff.mp hw
        rw [withEnds_singleton, List.mem_singleton] at h
        exact ⟨[c], by simpa using Ne.symm hc, .inl h⟩
      | cons m ms =>
        rw [withEnds_cons hc hw] at h
        rcases List.mem_cons.mp h with rfl | h
        · obtain ⟨body, hbody, hm⟩ := ih (l := m) (by simp [hw])
          refine ⟨c :: body, by simp [Ne.symm hc, hbody], ?_⟩
          rcases hm with rfl | rfl
          · exact .inl rfl
          · exact .inr rfl
        · exact ih (by simp [hw, h])

theorem newline_notMem_of_mem_lines {t : Text} {l : Line} (h : l ∈ lines t) : '\n' ∉ l := by
  obtain ⟨m, hm, rfl⟩ := List.mem_map.mp h
  obtain ⟨body, hbody, hcases⟩ := exists_of_mem_withEnds hm
  have hdrop : dropLast? '\n' m = body := by
    rcases hcases with rfl | rfl
    · exact dropLast?_of_getLast?_ne fun hlast => hbody (List.mem_of_getLast? hlast)
    · exact dropLast?_append _ _
  rw [content, hdrop]
  exact fun hmem => hbody ((dropLast?_isPrefix _ _).subset hmem)

theorem mem_of_mem_lines {t : Text} {l : Line} (h : l ∈ lines t) {c : Char} (hc : c ∈ l) :
    c ∈ t := by
  obtain ⟨m, hm, rfl⟩ := List.mem_map.mp h
  have hcm : c ∈ m := (dropLast?_isPrefix _ _).subset ((dropLast?_isPrefix _ _).subset hc)
  rw [← flatten_withEnds t]
  exact List.mem_flatten.mpr ⟨m, hm, hcm⟩

/-- Lines written one after the other: each loses one carriage return at its end. -/
theorem lines_flatMap_newline {ls : List Line} (h : ∀ l ∈ ls, '\n' ∉ l) :
    lines (ls.flatMap (· ++ ['\n'])) = ls.map (dropLast? '\r') := by
  induction ls with
  | nil => rfl
  | cons l ls ih =>
    rw [List.forall_mem_cons] at h
    rw [List.flatMap_cons, List.append_assoc, List.singleton_append, lines_line h.1, ih h.2,
      List.map_cons]

/-- Lines written one after the other are the lines of the text. -/
theorem lines_flatMap {ls : List Line}
    (h : ∀ l ∈ ls, '\n' ∉ l ∧ l.getLast? ≠ some '\r') :
    lines (ls.flatMap (· ++ ['\n'])) = ls := by
  rw [lines_flatMap_newline fun l hl => (h l hl).1]
  exact (List.map_congr_left fun l hl => dropLast?_of_getLast?_ne (h l hl).2).trans (List.map_id ls)

/-- A text whose lines are ended by newlines alone is its lines, each with a newline. -/
theorem flatMap_lines {t : Text} (ht : IsWhole t) (hreturn : '\r' ∉ t) :
    (lines t).flatMap (· ++ ['\n']) = t := by
  have hcontent : ∀ l ∈ withEnds t, content l ++ ['\n'] = l := by
    rcases List.eq_nil_or_concat' t with rfl | ⟨s, c, rfl⟩
    · intro l hl
      cases hl
    · obtain rfl : c = '\n' := by
        rcases ht with h | h
        · simp at h
        · simpa using h
      intro l hl
      have hl' := hl
      rw [withEnds_append_newline] at hl'
      obtain ⟨p, -, rfl⟩ := List.mem_map.mp hl'
      have hlast : p.getLast? ≠ some '\r' := by
        intro h
        apply hreturn
        rw [← flatten_withEnds (s ++ ['\n'])]
        exact List.mem_flatten.mpr ⟨_, hl, by simp [List.mem_of_getLast? h]⟩
      rw [content_append_newline, dropLast?_of_getLast?_ne hlast]
  rw [lines, List.flatMap_map, List.flatMap_congr hcontent, List.flatMap_id', flatten_withEnds]

/-! ## Lines put together with newlines -/

/-- What is put together holds the characters of its parts and of what stands between them. -/
theorem mem_join {sep : Text} {ts : List Text} {c : Char} (h : c ∈ join sep ts) :
    c ∈ sep ∨ ∃ t ∈ ts, c ∈ t := by
  induction ts with
  | nil => cases h
  | cons t ts ih =>
    cases ts with
    | nil => exact .inr ⟨t, by simp, by simpa [join] using h⟩
    | cons u ts =>
      rw [join, List.intercalate_cons_cons, List.append_assoc] at h
      rcases List.mem_append.mp h with h | h
      · exact .inr ⟨t, by simp, h⟩
      · rcases List.mem_append.mp h with h | h
        · exact .inl h
        · obtain hsep | ⟨v, hv, hc⟩ := ih h
          · exact .inl hsep
          · exact .inr ⟨v, List.mem_cons_of_mem t hv, hc⟩

/-- Newlines between lines and one behind them are newlines behind all of them. -/
theorem join_append_newline {ls : List Line} (h : ls ≠ []) :
    join ['\n'] ls ++ ['\n'] = ls.flatMap (· ++ ['\n']) := by
  induction ls with
  | nil => exact absurd rfl h
  | cons l ls ih =>
    cases ls with
    | nil => simp [join]
    | cons m ls =>
      have hcons : join ['\n'] (l :: m :: ls) = l ++ ['\n'] ++ join ['\n'] (m :: ls) :=
        List.intercalate_cons_cons
      rw [hcons, List.flatMap_cons, List.append_assoc, ih (by simp)]

/-- Lines put together and ended, of which each loses one carriage return at its end; no lines at all
give an empty one. -/
theorem lines_join_newline {ls : List Line} (h : ∀ l ∈ ls, '\n' ∉ l) :
    lines (join ['\n'] ls ++ ['\n']) = if ls = [] then [[]] else ls.map (dropLast? '\r') := by
  split_ifs with hls
  · rw [hls]
    rfl
  · rw [join_append_newline hls, lines_flatMap_newline h]

/-- Lines put together and ended are the lines of the text; no lines at all give an empty one. -/
theorem lines_join {ls : List Line} (h : ∀ l ∈ ls, '\n' ∉ l ∧ '\r' ∉ l) :
    lines (join ['\n'] ls ++ ['\n']) = if ls = [] then [[]] else ls := by
  have hmap : ls.map (dropLast? '\r') = ls :=
    (List.map_congr_left fun l hl =>
      dropLast?_of_getLast?_ne fun hlast => (h l hl).2 (List.mem_of_getLast? hlast)).trans
      (List.map_id ls)
  rw [lines_join_newline fun l hl => (h l hl).1, hmap]

theorem join_concat (ls : List Line) (l : Line) :
    join ['\n'] (ls ++ [l]) = ls.flatMap (· ++ ['\n']) ++ l := by
  have h : join ['\n'] (ls ++ [l]) ++ ['\n'] = (ls ++ [l]).flatMap (· ++ ['\n']) :=
    join_append_newline (by simp)
  rw [List.flatMap_append, List.flatMap_singleton, ← List.append_assoc] at h
  exact List.append_cancel_right h

theorem isWhole_flatMap (ls : List Line) : IsWhole (ls.flatMap (· ++ ['\n'])) := by
  rcases List.eq_nil_or_concat' ls with rfl | ⟨ms, l, rfl⟩
  · exact .nil
  · rw [List.flatMap_append, List.flatMap_singleton, ← List.append_assoc]
    exact .append_newline _

theorem withEnds_of_notMem {l : Line} (h : '\n' ∉ l) (hne : l ≠ []) : withEnds l = [l] := by
  induction l with
  | nil => exact absurd rfl hne
  | cons c l ih =>
    rw [List.mem_cons, not_or] at h
    cases l with
    | nil => exact withEnds_singleton c
    | cons d l => exact withEnds_cons (Ne.symm h.1) (ih h.2 (by simp))

/-- The last line need not be ended. -/
theorem lines_flatMap_append {ls : List Line} (h : ∀ m ∈ ls, '\n' ∉ m ∧ m.getLast? ≠ some '\r')
    {l : Line} (hl : '\n' ∉ l ∧ l.getLast? ≠ some '\r') (hne : l ≠ []) :
    lines (ls.flatMap (· ++ ['\n']) ++ l) = ls ++ [l] := by
  have hlast : l.getLast? ≠ some '\n' := fun hlast => hl.1 (List.mem_of_getLast? hlast)
  have hone : lines l = [l] := by
    rw [lines, withEnds_of_notMem hl.1 hne, List.map_singleton, content,
      dropLast?_of_getLast?_ne hlast, dropLast?_of_getLast?_ne hl.2]
  rw [lines_append (isWhole_flatMap ls), lines_flatMap h, hone]

/-- A text occurs only where its first character does. -/
theorem occursIn_eq_false {c : Char} {t : Text} (h : c ∉ t) (part : Text) :
    occursIn (c :: part) t = false := by
  have hsearch : search (fun s => (afterPrefix? (c :: part) s).map fun after => ((), after)) t =
      none := by
    induction t with
    | nil => rfl
    | cons d t ih =>
      rw [List.mem_cons, not_or] at h
      rw [search, ih h.2]
      simp [afterPrefix?, h.1]
  rw [occursIn, hsearch]
  rfl

/-! ## Ending the last line -/

open Edit (terminated)

theorem terminated_of_isWhole {t : Text} (h : IsWhole t) : terminated t = t := by
  unfold terminated
  rcases h with rfl | h <;> simp [*]

theorem terminated_of_not_isWhole {t : Text} (h : ¬ IsWhole t) : terminated t = t ++ ['\n'] := by
  simp only [IsWhole, not_or] at h
  simp [terminated, h]

theorem isWhole_terminated (t : Text) : IsWhole (terminated t) := by
  by_cases h : IsWhole t
  · rwa [terminated_of_isWhole h]
  · rw [terminated_of_not_isWhole h]
    exact .append_newline t

theorem terminated_cons_cons (c d : Char) (t : Text) :
    terminated (c :: d :: t) = c :: terminated (d :: t) := by
  simp only [terminated, List.isEmpty_cons, Bool.false_or, List.getLast?_cons_cons]
  split_ifs <;> rfl

/-- Ending the last line ends every line. -/
theorem withEnds_terminated (t : Text) : withEnds (terminated t) = (withEnds t).map terminated := by
  induction t with
  | nil => rfl
  | cons c t ih =>
    cases t with
    | nil =>
      by_cases hc : c = '\n'
      · subst hc; rfl
      · simp [terminated, hc, withEnds]
    | cons d t =>
      obtain ⟨l, ls, hw⟩ := exists_withEnds_cons d t
      rw [hw, List.map_cons] at ih
      rw [terminated_cons_cons]
      by_cases hc : c = '\n'
      · rw [hc, withEnds_newline, withEnds_newline, ih, hw]; rfl
      · rw [withEnds_cons hc ih, withEnds_cons hc hw, List.map_cons, terminated_cons_cons]

theorem content_terminated (l : Text) : content (terminated l) = content l := by
  by_cases h : IsWhole l
  · rw [terminated_of_isWhole h]
  · have hlast : l.getLast? ≠ some '\n' := fun hl => h (.inr hl)
    rw [terminated_of_not_isWhole h, content_append_newline, content,
      dropLast?_of_getLast?_ne hlast]

/-! ## Texts put together from lines -/

theorem map_terminated_of_ended {ls : List Text} (h : ∀ l ∈ ls, l.getLast? = some '\n') :
    ls.map terminated = ls :=
  (List.map_congr_left fun l hl => terminated_of_isWhole (.inr (h l hl))).trans (List.map_id ls)

/-- The lines of content in front of other lines: the last one is ended when lines follow. -/
def fitted (content : Text) (after : List Text) : List Text :=
  if after = [] then withEnds content else (withEnds content).map terminated

theorem length_fitted (content : Text) (after : List Text) :
    (fitted content after).length = (lines content).length := by
  rw [fitted, length_lines]
  split_ifs
  · rfl
  · exact List.length_map _

theorem map_content_fitted (content : Text) (after : List Text) :
    (fitted content after).map Text.content = lines content := by
  have hends : (Text.content ∘ terminated) = Text.content := funext content_terminated
  rw [fitted]
  split_ifs
  · rfl
  · rw [List.map_map, hends]
    rfl

/-- The lines of a whole text are ended. -/
theorem IsWhole.map_terminated {t : Text} (h : IsWhole t) :
    (withEnds t).map terminated = withEnds t := by
  rw [← withEnds_terminated, terminated_of_isWhole h]

theorem fitted_of_isWhole {content : Text} (h : IsWhole content) (after : List Text) :
    fitted content after = withEnds content := by
  rw [fitted, h.map_terminated, ite_self]

/-- Lines of a text, content and lines of a text put together: only the last line of the first part
and the last line of the content may change, and then by a newline. -/
theorem withEnds_splice (t : Text) (j k : ℕ) (content : Text) :
    withEnds (Edit.splice ((withEnds t).take j) content ((withEnds t).drop k)) =
      ((withEnds t).take j).map terminated ++ fitted content ((withEnds t).drop k) ++
        (withEnds t).drop k := by
  have hback := withEnds_drop t k
  generalize (withEnds t).drop k = back at hback ⊢
  rw [Edit.splice, List.append_assoc, withEnds_append (isWhole_terminated _), withEnds_terminated,
    withEnds_take, List.append_assoc, fitted]
  cases back with
  | nil => simp
  | cons l ls =>
    rw [List.isEmpty_cons, if_neg Bool.false_ne_true, if_neg (List.cons_ne_nil l ls),
      withEnds_append (isWhole_terminated content), withEnds_terminated, hback]

theorem lines_splice (t : Text) (j k : ℕ) (content : Text) :
    lines (Edit.splice ((withEnds t).take j) content ((withEnds t).drop k)) =
      (lines t).take j ++ lines content ++ (lines t).drop k := by
  have hends : (Text.content ∘ terminated) = Text.content := funext content_terminated
  rw [lines, withEnds_splice, List.map_append, List.map_append, map_content_fitted, List.map_map,
    hends, List.map_take, List.map_drop]
  rfl

end Literate.Text

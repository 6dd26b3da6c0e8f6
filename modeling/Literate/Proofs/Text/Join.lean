import Mathlib
import Literate.Proofs.Text.Trim

/-!
# Texts put together

Parts that were put together can be found again: by cutting at a separator that no part holds, or as
words when they hold no blank.

* `join_cons`: what stands between the parts stands before each part but the first.
* `trim_join`: trimmed parts give a trimmed text.
* `cut_append`, `pieces_join`: parts without the separator.
* `join_pieces`: a text that was cut at a separator.
* `afterPrefix?_eq_some_iff`: what a text begins with.
* `spaced`, `words_spaced`: parts without blanks.
-/

namespace Literate.Text

/-- What stands between the parts stands before each part but the first. -/
theorem join_cons (sep t : Text) (ts : List Text) :
    join sep (t :: ts) = t ++ ts.flatMap (sep ++ ·) := by
  induction ts generalizing t with
  | nil => simp [join]
  | cons u ts ih =>
    rw [join, List.intercalate_cons_cons, ← join, ih, List.flatMap_cons]
    simp only [List.append_assoc]

theorem mem_join_of_mem (sep : Text) {ts : List Text} {t : Text} (ht : t ∈ ts) {c : Char}
    (hc : c ∈ t) : c ∈ join sep ts := by
  cases ts with
  | nil => cases ht
  | cons u us =>
    rw [join_cons, List.mem_append]
    rcases List.mem_cons.mp ht with rfl | ht
    · exact .inl hc
    · exact .inr (List.mem_flatMap.mpr ⟨t, ht, List.mem_append_right sep hc⟩)

/-- The last part stands at the end. -/
theorem exists_join_concat (sep : Text) (ts : List Text) (t : Text) :
    ∃ front, join sep (ts ++ [t]) = front ++ t := by
  cases ts with
  | nil => exact ⟨[], by simp [join]⟩
  | cons u us =>
    refine ⟨u ++ us.flatMap (sep ++ ·) ++ sep, ?_⟩
    rw [List.cons_append, join_cons, List.flatMap_append, List.flatMap_singleton]
    simp only [List.append_assoc]

/-- Parts that are not empty and have no blanks at their ends give a text with none at its ends. -/
theorem trim_join {sep : Text} {ts : List Text} (h : ∀ t ∈ ts, trim t = t ∧ t ≠ []) :
    trim (join sep ts) = join sep ts := by
  rcases List.eq_nil_or_concat' ts with rfl | ⟨us, u, hu⟩
  · rfl
  · refine trim_eq_self_iff.mpr ⟨?_, ?_⟩
    · cases ts with
      | nil => simp at hu
      | cons t ts =>
        obtain ⟨htrim, hne⟩ := h t (by simp)
        rw [join_cons]
        exact (trim_eq_self_iff.mp htrim).1.append hne _
    · obtain ⟨htrim, hne⟩ := h u (by simp [hu])
      obtain ⟨front, hfront⟩ := exists_join_concat sep us u
      rw [hu, hfront, List.reverse_append]
      exact (trim_eq_self_iff.mp htrim).2.append (by simpa using hne) _

/-! ## Cutting at a separator -/

section

variable {sep : Char} {a : Text}

theorem cut_append (h : sep ∉ a) (rest : Text) : cut sep (a ++ sep :: rest) = (a, some rest) := by
  induction a with
  | nil => simp [cut]
  | cons c a ih =>
    rw [List.mem_cons, not_or] at h
    rw [List.cons_append, cut, if_neg (Ne.symm h.1), ih h.2]

theorem cut_of_notMem (h : sep ∉ a) : cut sep a = (a, none) := by
  induction a with
  | nil => rfl
  | cons c a ih =>
    rw [List.mem_cons, not_or] at h
    rw [cut, if_neg (Ne.symm h.1), ih h.2]

theorem pieces_of_notMem (h : sep ∉ a) : pieces sep a = [a] := by
  induction a with
  | nil => rfl
  | cons c a ih =>
    rw [List.mem_cons, not_or] at h
    rw [pieces, if_neg (Ne.symm h.1), ih h.2]

theorem pieces_append (h : sep ∉ a) (rest : Text) :
    pieces sep (a ++ sep :: rest) = a :: pieces sep rest := by
  induction a with
  | nil => simp [pieces]
  | cons c a ih =>
    rw [List.mem_cons, not_or] at h
    rw [List.cons_append, pieces, if_neg (Ne.symm h.1), ih h.2]

/-- Parts put together with a separator and some more are cut at the separator; what was put behind
it stands before all parts but the first. -/
theorem pieces_join {pad : Text} (hpad : sep ∉ pad) {t : Text} {ts : List Text} (ht : sep ∉ t)
    (hts : ∀ u ∈ ts, sep ∉ u) :
    pieces sep (join (sep :: pad) (t :: ts)) = t :: ts.map (pad ++ ·) := by
  rw [join_cons]
  induction ts generalizing t with
  | nil => simpa using pieces_of_notMem ht
  | cons u ts ih =>
    rw [List.forall_mem_cons] at hts
    have hu : sep ∉ pad ++ u := by simp [hpad, hts.1]
    rw [List.flatMap_cons, List.cons_append, List.cons_append, pieces_append ht, ih hu hts.2,
      List.map_cons]

end

/-- There is at least one piece. -/
theorem exists_pieces_eq_cons (sep : Char) (t : Text) : ∃ p ps, pieces sep t = p :: ps := by
  cases t with
  | nil => exact ⟨[], [], rfl⟩
  | cons c t =>
    rw [pieces]
    split_ifs
    · exact ⟨[], _, rfl⟩
    · cases pieces sep t <;> exact ⟨_, _, rfl⟩

/-- A character that is not the separator begins the first piece. -/
theorem pieces_cons {sep c : Char} (hc : c ≠ sep) {t p : Text} {ps : List Text}
    (h : pieces sep t = p :: ps) : pieces sep (c :: t) = (c :: p) :: ps := by
  rw [pieces, if_neg hc, h]

/-- A separator at the end is followed by an empty piece. -/
theorem pieces_concat (sep : Char) (t : Text) : pieces sep (t ++ [sep]) = pieces sep t ++ [[]] := by
  induction t with
  | nil => simp [pieces]
  | cons c t ih =>
    obtain ⟨p, ps, hp⟩ := exists_pieces_eq_cons sep t
    rw [hp, List.cons_append] at ih
    by_cases hc : c = sep
    · rw [List.cons_append, pieces, if_pos hc, ih, pieces, if_pos hc, hp]
      rfl
    · rw [List.cons_append, pieces_cons hc ih, pieces_cons hc hp]
      rfl

/-- The pieces of a text put together again. -/
theorem join_pieces (sep : Char) (t : Text) : join [sep] (pieces sep t) = t := by
  induction t with
  | nil => rfl
  | cons c t ih =>
    obtain ⟨p, ps, hp⟩ := exists_pieces_eq_cons sep t
    rw [hp, join_cons] at ih
    by_cases hc : c = sep
    · rw [pieces, if_pos hc, hp, join_cons, List.flatMap_cons, ← ih, hc]
      rfl
    · rw [pieces_cons hc hp, join_cons, ← ih]
      rfl

/-! ## What a text begins with -/

theorem afterPrefix?_eq_some_iff {start t rest : Text} :
    afterPrefix? start t = some rest ↔ t = start ++ rest := by
  induction start generalizing t with
  | nil => simp [afterPrefix?]
  | cons c start ih =>
    cases t with
    | nil => simp [afterPrefix?]
    | cons d t =>
      rw [afterPrefix?, List.cons_append, List.cons.injEq, ← ih]
      split_ifs with hc <;> simp [hc, eq_comm]

theorem afterPrefix?_append (start rest : Text) : afterPrefix? start (start ++ rest) = some rest :=
  afterPrefix?_eq_some_iff.mpr rfl

/-! ## Words -/

/-- Parts with a space before each. -/
def spaced (ts : List Text) : Text := ts.flatMap ([' '] ++ ·)

theorem spaced_cons (t : Text) (ts : List Text) : spaced (t :: ts) = ' ' :: (t ++ spaced ts) := rfl

theorem spaced_append (ts us : List Text) : spaced (ts ++ us) = spaced ts ++ spaced us :=
  List.flatMap_append

theorem join_space_cons (t : Text) (ts : List Text) : join [' '] (t :: ts) = t ++ spaced ts :=
  join_cons [' '] t ts

/-- Nothing or a space stands where spaced parts begin. -/
theorem head?_spaced {ts : List Text} : ∀ c ∈ (spaced ts).head?, c = ' ' := by
  cases ts with
  | nil => simp [spaced]
  | cons t ts => exact fun c hc => (Option.some.inj hc).symm

theorem words_blank {c : Char} (hc : isBlank c = true) (t : Text) : words (c :: t) = words t := by
  simp [words.eq_def (c :: t), hc]

theorem words_blank_append {bs : Text} (h : ∀ c ∈ bs, isBlank c = true) (t : Text) :
    words (bs ++ t) = words t := by
  induction bs with
  | nil => rfl
  | cons c bs ih =>
    rw [List.forall_mem_cons] at h
    rw [List.cons_append, words_blank h.1, ih h.2]

theorem words_append {w : Text} (hne : w ≠ []) (hw : ∀ c ∈ w, isBlank c = false) {r : Text}
    (hr : ∀ c ∈ r.head?, isBlank c = true) : words (w ++ r) = w :: words r := by
  induction w with
  | nil => exact absurd rfl hne
  | cons c w ih =>
    rw [List.forall_mem_cons] at hw
    rw [List.cons_append, words.eq_def]
    simp only [hw.1, if_neg Bool.false_ne_true]
    cases w with
    | nil =>
      cases r with
      | nil => rfl
      | cons d r => simp [hr d rfl]
    | cons d w =>
      have hd : isBlank d = false := hw.2 d (by simp)
      rw [ih (by simp) hw.2]
      simp [hd]

/-- The word that a text begins with. -/
theorem takeWhile_word_append {w r : Text} (hw : ∀ c ∈ w, isBlank c = false)
    (hr : ∀ c ∈ r.head?, isBlank c = true) :
    (w ++ r).takeWhile (!isBlank ·) = w ∧ (w ++ r).dropWhile (!isBlank ·) = r := by
  have hword : ∀ c ∈ w, (!isBlank c) = true := fun c hc => by rw [hw c hc]; rfl
  rw [List.takeWhile_append_of_pos hword, List.dropWhile_append_of_pos hword]
  cases r with
  | nil => simp
  | cons c r => simp [hr c rfl]

/-- Of parts without blanks, the words are those that are not empty. -/
theorem words_spaced {ts : List Text} (h : ∀ t ∈ ts, ∀ c ∈ t, isBlank c = false) :
    words (spaced ts) = ts.filter (!·.isEmpty) := by
  induction ts with
  | nil => rfl
  | cons t ts ih =>
    obtain ⟨ht, hts⟩ := List.forall_mem_cons.mp h
    rw [spaced_cons, words_blank (by decide), List.filter_cons]
    cases t with
    | nil => simpa using ih hts
    | cons c t =>
      have hhead : ∀ d ∈ (spaced ts).head?, isBlank d = true := by
        intro d hd
        rw [head?_spaced d hd]
        decide
      rw [words_append (by simp) ht hhead, ih hts]
      simp

end Literate.Text

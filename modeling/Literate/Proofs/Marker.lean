import Mathlib
import Literate.Fence
import Literate.Marker
import Literate.Proofs.Text.Join

/-!
# Trailing markers

Markers are taken off the end of a text word by word until a word is no marker.  So what is left is
the front of the text, has no trailing marker itself, and nothing but blanks and markers is gone.

* `Marker.ofWord?_eq_some_iff`: a word is a marker exactly when it is that marker written.
* `Marker.strip_isPrefix`, `Marker.exists_eq_strip_append`: what stripping takes off.
* `Marker.find_strip`: a stripped text has no markers.
* `Marker.find_trim`, `Marker.trim_strip_trim`: blanks around a text do not matter.
* `Marker.find_append_markers`, `Marker.strip_append_markers`: markers put behind a text.
* `Marker.find_strip_behind`: markers that are written are read, and nothing of the text with them.
-/

namespace Literate

open Text

namespace Marker

theorem ofSymbol?_eq_some_iff {c : Char} {t : Target} :
    Target.ofSymbol? c = some t ↔ c = t.symbol := by
  unfold Target.ofSymbol?
  cases t <;> simp only [Target.symbol] <;> split_ifs <;> simp_all

theorem ofSuffix?_eq_some_iff {s : Text} {x : Scope} :
    Scope.ofSuffix? s = some x ↔ s = x.suffix := by
  constructor
  · intro h
    unfold Scope.ofSuffix? at h
    split at h <;> cases h <;> rfl
  · rintro rfl
    cases x <;> rfl

/-- A word is a marker exactly when it is that marker written. -/
theorem ofWord?_eq_some_iff {w : Text} {m : Marker} : ofWord? w = some m ↔ w = m.render := by
  cases w with
  | nil => simp [ofWord?, render]
  | cons c s =>
    rw [ofWord?, render, List.cons.injEq, ← ofSymbol?_eq_some_iff, ← ofSuffix?_eq_some_iff]
    obtain ⟨t, x⟩ := m
    cases Target.ofSymbol? c <;> cases Scope.ofSuffix? s <;> simp

/-- The characters of markers have nothing to do with fences. -/
theorem fenceChar_notMem_render (m : Marker) (k : FenceKind) : k.char ∉ m.render := by
  obtain ⟨t, x⟩ := m
  cases t <;> cases x <;> cases k <;> decide

/-! ## Taking markers off -/

theorem peel_nil : peel [] = ([], []) := by rw [peel.eq_def]

theorem peel_of_none {r : Text} (h : ofWord? (r.takeWhile (!isBlank ·)).reverse = none) :
    peel r = (r, []) := by
  cases r with
  | nil => exact peel_nil
  | cons c s =>
    rw [peel.eq_def]
    simp only [h]

theorem peel_of_some {c : Char} {s : Text} {m : Marker}
    (h : ofWord? ((c :: s).takeWhile (!isBlank ·)).reverse = some m) :
    peel (c :: s) = ((peel (trimStart (s.dropWhile (!isBlank ·)))).1,
      m :: (peel (trimStart (s.dropWhile (!isBlank ·)))).2) := by
  rw [peel.eq_def]
  simp only [h]

/-- A word that is a marker starts with a character that is not blank, and it ends where the next
blank stands. -/
theorem takeWhile_of_ofWord? {c : Char} {s : Text} {m : Marker}
    (h : ofWord? ((c :: s).takeWhile (!isBlank ·)).reverse = some m) :
    c :: s = m.render.reverse ++ s.dropWhile (!isBlank ·) := by
  have hc : isBlank c = false := by
    by_contra hc
    rw [List.takeWhile_cons_of_neg (by simpa using hc)] at h
    cases h
  have hword := ofWord?_eq_some_iff.mp h
  rw [List.takeWhile_cons_of_pos (by simp [hc])] at hword
  rw [← hword, List.reverse_reverse, List.cons_append, List.takeWhile_append_dropWhile]

/-- Whether a text can be what is taken off a line with its markers. -/
def IsTail (t : Text) : Prop := ∀ k : FenceKind, k.char ∉ t

theorem IsTail.append {a b : Text} (ha : IsTail a) (hb : IsTail b) : IsTail (a ++ b) := by
  intro k hk
  rcases List.mem_append.mp hk with h | h
  · exact ha k h
  · exact hb k h

theorem IsTail.of_blank {t : Text} (h : ∀ c ∈ t, isBlank c = true) : IsTail t := by
  intro k hk
  have : isBlank k.char = true := h _ hk
  cases k <;> cases this

theorem IsTail.reverse {t : Text} (h : IsTail t) : IsTail t.reverse := by
  intro k hk
  exact h k (List.mem_reverse.mp hk)

/-- Nothing but markers and blanks is taken off. -/
theorem exists_eq_append_peel (r : Text) : ∃ gone, IsTail gone ∧ r = gone ++ (peel r).1 := by
  induction r using peel.induct with
  | case1 => exact ⟨[], by simp [IsTail], by rw [peel_nil]; rfl⟩
  | case2 c s word h => exact ⟨[], by simp [IsTail], by rw [peel_of_none h]; rfl⟩
  | case3 c s word m h _ _ _ ih =>
    obtain ⟨gone, hgone, hrest⟩ := ih
    obtain ⟨bs, hbs, hblank⟩ := exists_eq_append_trimStart (s.dropWhile (!isBlank ·))
    have htail : IsTail (m.render.reverse ++ bs) :=
      .append (.reverse (fenceChar_notMem_render m)) (.of_blank hblank)
    refine ⟨m.render.reverse ++ bs ++ gone, htail.append hgone, ?_⟩
    rw [peel_of_some h, List.append_assoc, ← hrest, List.append_assoc, ← hbs]
    exact takeWhile_of_ofWord? h

/-- No marker is left. -/
theorem peel_peel (r : Text) : peel (peel r).1 = ((peel r).1, []) := by
  induction r using peel.induct with
  | case1 => simp [peel_nil]
  | case2 c s word h => simp [peel_of_none h]
  | case3 c s word m h _ _ _ ih => rw [peel_of_some h]; exact ih

theorem startsSolid_peel {r : Text} (hr : StartsSolid r) : StartsSolid (peel r).1 := by
  induction r using peel.induct with
  | case1 => rwa [peel_nil]
  | case2 c s word h => rwa [peel_of_none h]
  | case3 c s word m h _ _ _ ih => rw [peel_of_some h]; exact ih (startsSolid_trimStart _)

/-! ## Stripping a text -/

theorem strip_of_find_eq_nil {t : Text} (h : find t = []) : strip t = t := by
  rw [find, List.reverse_eq_nil_iff] at h
  simp [strip, h]

theorem strip_eq {t : Text} (h : find t ≠ []) :
    strip t = (peel (trimStart t.reverse)).1.reverse := by
  rw [find, ne_eq, List.reverse_eq_nil_iff] at h
  simp [strip, h]

/-- **A stripped text has no markers.** -/
theorem find_strip (t : Text) : find (strip t) = [] := by
  by_cases h : find t = []
  · rw [strip_of_find_eq_nil h, h]
  · rw [strip_eq h, find, List.reverse_reverse,
      trimStart_of_startsSolid (startsSolid_peel (startsSolid_trimStart _)), peel_peel]
    rfl

/-- What stripping takes off holds no character of a fence. -/
theorem exists_eq_strip_append (t : Text) : ∃ gone, IsTail gone ∧ t = strip t ++ gone := by
  by_cases h : find t = []
  · exact ⟨[], by simp [IsTail], by rw [strip_of_find_eq_nil h, List.append_nil]⟩
  · obtain ⟨bs, hbs, hblank⟩ := exists_eq_append_trimStart t.reverse
    obtain ⟨gone, hgone, hpeel⟩ := exists_eq_append_peel (trimStart t.reverse)
    refine ⟨gone.reverse ++ bs.reverse, .append hgone.reverse (.reverse (.of_blank hblank)), ?_⟩
    rw [strip_eq h, ← List.append_assoc, ← List.reverse_append, ← hpeel, ← List.reverse_append,
      ← hbs, List.reverse_reverse]

/-- Stripping keeps the front of a text. -/
theorem strip_isPrefix (t : Text) : strip t <+: t := by
  obtain ⟨gone, -, h⟩ := exists_eq_strip_append t
  exact ⟨gone, h.symm⟩

theorem find_of_allBlank {t : Text} (h : allBlank t = true) : find t = [] := by
  have : trimStart t.reverse = [] := by
    rw [trimStart, List.dropWhile_eq_nil_iff]
    intro c hc
    exact List.all_eq_true.mp h c (List.mem_reverse.mp hc)
  rw [find, this, peel_nil]
  rfl

theorem find_trimEnd (t : Text) : find (trimEnd t) = find t := by
  rw [find, find, reverse_trimEnd, trimStart_of_startsSolid (startsSolid_trimStart _)]

/-! ## Blanks around a text -/

/-- Blanks behind a reversed text are no part of its markers. -/
theorem peel_append_blank {bs : Text} (h : ∀ c ∈ bs, isBlank c = true) (r : Text) :
    ∃ left, (∀ c ∈ left, isBlank c = true) ∧ peel (r ++ bs) = ((peel r).1 ++ left, (peel r).2) := by
  have hword : bs.takeWhile (!isBlank ·) = [] := by
    rw [List.takeWhile_eq_nil_iff]
    intro hlen
    simpa using h _ (List.getElem_mem hlen)
  have hrest : bs.dropWhile (!isBlank ·) = bs := by
    have := List.takeWhile_append_dropWhile (p := (!isBlank ·)) (l := bs)
    rwa [hword, List.nil_append] at this
  have htake : ∀ t : Text, (t ++ bs).takeWhile (!isBlank ·) = t.takeWhile (!isBlank ·) := by
    intro t
    rw [List.takeWhile_append, hword, List.append_nil]
    split_ifs with hlen
    · exact ((List.takeWhile_prefix _).eq_of_length hlen).symm
    · rfl
  have hdrop : ∀ t : Text, (t ++ bs).dropWhile (!isBlank ·) = t.dropWhile (!isBlank ·) ++ bs := by
    intro t
    rw [List.dropWhile_append, hrest]
    split_ifs with hempty
    · rw [List.isEmpty_iff.mp hempty, List.nil_append]
    · rfl
  induction r using peel.induct with
  | case1 =>
    refine ⟨bs, h, ?_⟩
    rw [List.nil_append, peel_nil, peel_of_none (by rw [hword]; rfl), List.nil_append]
  | case2 c s word hnone =>
    refine ⟨bs, h, ?_⟩
    rw [peel_of_none hnone, peel_of_none (by rw [htake]; exact hnone)]
  | case3 c s word m hsome _ _ _ ih =>
    have hsome' : ofWord? ((c :: (s ++ bs)).takeWhile (!isBlank ·)).reverse = some m := by
      rw [← List.cons_append, htake]
      exact hsome
    rw [List.cons_append, peel_of_some hsome, peel_of_some hsome', hdrop]
    rcases trimStart_append_blank h (s.dropWhile (!isBlank ·)) with happ | ⟨hnil, happ⟩
    · obtain ⟨left, hleft, hpeel⟩ := ih
      exact ⟨left, hleft, by rw [happ, hpeel]⟩
    · exact ⟨[], by simp, by rw [happ, hnil, List.append_nil]⟩

/-- Blanks in front of a text are no part of its markers. -/
theorem peel_blank_append {bs : Text} (h : ∀ c ∈ bs, isBlank c = true) (t : Text) :
    ∃ left, (∀ c ∈ left, isBlank c = true) ∧
      peel (trimStart (bs ++ t).reverse) =
        ((peel (trimStart t.reverse)).1 ++ left, (peel (trimStart t.reverse)).2) := by
  have hblank : ∀ c ∈ bs.reverse, isBlank c = true := fun c hc => h c (List.mem_reverse.mp hc)
  rw [List.reverse_append]
  rcases trimStart_append_blank hblank t.reverse with happ | ⟨hnil, happ⟩
  · rw [happ]
    exact peel_append_blank hblank _
  · rw [happ, hnil]
    exact ⟨[], by simp, by rw [List.append_nil]⟩

theorem find_blank_append {bs : Text} (h : ∀ c ∈ bs, isBlank c = true) (t : Text) :
    find (bs ++ t) = find t := by
  obtain ⟨left, -, hpeel⟩ := peel_blank_append h t
  rw [find, find, hpeel]

theorem trim_strip_blank_append {bs : Text} (h : ∀ c ∈ bs, isBlank c = true) (t : Text) :
    trim (strip (bs ++ t)) = trim (strip t) := by
  by_cases hfind : find t = []
  · rw [strip_of_find_eq_nil hfind, strip_of_find_eq_nil (by rwa [find_blank_append h]),
      trim_blank_append h]
  · obtain ⟨left, hleft, hpeel⟩ := peel_blank_append h t
    rw [strip_eq hfind, strip_eq (by rwa [find_blank_append h]), hpeel, List.reverse_append,
      trim_blank_append fun c hc => hleft c (List.mem_reverse.mp hc)]

/-- Blanks around a text do not matter to its markers. -/
theorem find_trim (t : Text) : find (trim t) = find t := by
  obtain ⟨bs, hbs, hblank⟩ := exists_eq_append_trimStart (trimEnd t)
  rw [← find_trimEnd t, hbs, find_blank_append hblank]
  rfl

/-- Blanks behind a text do not matter to its markers. -/
theorem find_append_blank {bs : Text} (h : ∀ c ∈ bs, isBlank c = true) (t : Text) :
    find (t ++ bs) = find t := by
  rw [← find_trimEnd, trimEnd_append_blank h, find_trimEnd]

theorem strip_trimEnd {t : Text} (h : find t ≠ []) : strip (trimEnd t) = strip t := by
  rw [strip_eq h, strip_eq (by rwa [find_trimEnd]), reverse_trimEnd,
    trimStart_of_startsSolid (startsSolid_trimStart _)]

theorem strip_append_blank {bs t : Text} (h : ∀ c ∈ bs, isBlank c = true) (hfind : find t ≠ []) :
    strip (t ++ bs) = strip t := by
  have hfind' : find (t ++ bs) ≠ [] := by rwa [find_append_blank h]
  rw [← strip_trimEnd hfind', trimEnd_append_blank h, strip_trimEnd hfind]

/-- Blanks around a text do not matter to what is left without its markers. -/
theorem trim_strip_trim (t : Text) : trim (strip (trim t)) = trim (strip t) := by
  obtain ⟨bs, hbs, hblank⟩ := exists_eq_append_trimStart (trimEnd t)
  have hend : trim (strip (trimEnd t)) = trim (strip t) := by
    by_cases hfind : find t = []
    · rw [strip_of_find_eq_nil hfind, strip_of_find_eq_nil (by rwa [find_trimEnd]), trim_trimEnd]
    · rw [strip_trimEnd hfind]
  rw [← hend, hbs, trim_strip_blank_append hblank]
  rfl

/-! ## Putting markers on -/

theorem isBlank_of_mem_render {m : Marker} : ∀ c ∈ m.render, isBlank c = false := by
  have hall : m.render.all (!isBlank ·) = true := by
    obtain ⟨t, x⟩ := m
    cases t <;> cases x <;> decide
  simpa using hall

/-- A marker that a reversed text begins with is taken off. -/
theorem peel_render_append (m : Marker) {r : Text} (hr : ∀ c ∈ r.head?, isBlank c = true) :
    peel (m.render.reverse ++ r) = ((peel (trimStart r)).1, m :: (peel (trimStart r)).2) := by
  have hsolid : ∀ c ∈ m.render.reverse, isBlank c = false := fun c hc =>
    isBlank_of_mem_render c (List.mem_reverse.mp hc)
  obtain ⟨htake, hdrop⟩ := takeWhile_word_append hsolid hr
  have hword : ofWord? ((m.render.reverse ++ r).takeWhile (!isBlank ·)).reverse = some m := by
    rw [htake, List.reverse_reverse]
    exact ofWord?_eq_some_iff.mpr rfl
  cases hrender : m.render.reverse ++ r with
  | nil =>
    rw [hrender] at hword
    cases hword
  | cons c s =>
    rw [hrender] at hword hdrop
    have hc : isBlank c = false := by
      by_contra hc
      rw [List.takeWhile_cons_of_neg (by simpa using hc)] at hword
      cases hword
    rw [List.dropWhile_cons_of_pos (by simp [hc])] at hdrop
    rw [peel_of_some hword, hdrop]

/-- Markers behind blanks are taken off a text one after the other. -/
theorem peel_append_markers {ps : List (Text × Marker)}
    (h : ∀ p ∈ ps, p.1 ≠ [] ∧ ∀ c ∈ p.1, isBlank c = true) (t : Text) :
    peel (trimStart (t ++ ps.flatMap fun p => p.1 ++ p.2.render).reverse) =
      ((peel (trimStart t.reverse)).1,
        (ps.map Prod.snd).reverse ++ (peel (trimStart t.reverse)).2) := by
  induction ps using List.reverseRecOn with
  | nil => simp
  | append_singleton ps p ih =>
    obtain ⟨hps, hp⟩ := List.forall_mem_append.mp h
    obtain ⟨hne, hblank⟩ := hp p (List.mem_singleton_self p)
    have hrev : (t ++ (ps ++ [p]).flatMap fun p => p.1 ++ p.2.render).reverse =
        p.2.render.reverse ++
          (p.1.reverse ++ (t ++ ps.flatMap fun p => p.1 ++ p.2.render).reverse) := by
      simp
    have hblank' : ∀ c ∈ p.1.reverse, isBlank c = true := fun c hc =>
      hblank c (List.mem_reverse.mp hc)
    have hhead : ∀ c ∈ (p.1.reverse ++
        (t ++ ps.flatMap fun p => p.1 ++ p.2.render).reverse).head?, isBlank c = true := by
      intro c hc
      rw [List.head?_append_of_ne_nil _ (by simpa using hne)] at hc
      exact hblank' c (List.mem_of_mem_head? hc)
    have hstart : StartsSolid (p.2.render.reverse ++
        (p.1.reverse ++ (t ++ ps.flatMap fun p => p.1 ++ p.2.render).reverse)) := by
      refine StartsSolid.append (fun c hc => ?_) (by simp [render]) _
      exact isBlank_of_mem_render c (List.mem_reverse.mp (List.mem_of_mem_head? hc))
    rw [hrev, trimStart_of_startsSolid hstart, peel_render_append p.2 hhead,
      trimStart_blank_append hblank', ih hps]
    simp

/-- **Markers put behind a text** are found, behind those it has. -/
theorem find_append_markers {ps : List (Text × Marker)}
    (h : ∀ p ∈ ps, p.1 ≠ [] ∧ ∀ c ∈ p.1, isBlank c = true) (t : Text) :
    find (t ++ ps.flatMap fun p => p.1 ++ p.2.render) = find t ++ ps.map Prod.snd := by
  rw [find, find, peel_append_markers h]
  simp

theorem peel_fst_of_snd {r : Text} (h : (peel r).2 = []) : (peel r).1 = r := by
  cases r with
  | nil => rw [peel_nil]
  | cons c s =>
    cases hword : ofWord? ((c :: s).takeWhile (!isBlank ·)).reverse with
    | none => rw [peel_of_none hword]
    | some m =>
      rw [peel_of_some hword] at h
      cases h

/-- Markers put behind a text that has none, and does not end with a blank, are stripped again. -/
theorem strip_append_markers {ps : List (Text × Marker)}
    (h : ∀ p ∈ ps, p.1 ≠ [] ∧ ∀ c ∈ p.1, isBlank c = true) {t : Text} (ht : find t = [])
    (hend : StartsSolid t.reverse) :
    strip (t ++ ps.flatMap fun p => p.1 ++ p.2.render) = t := by
  cases ps with
  | nil => rw [List.flatMap_nil, List.append_nil, strip_of_find_eq_nil ht]
  | cons p ps =>
    have hfound : find (t ++ (p :: ps).flatMap fun p => p.1 ++ p.2.render) ≠ [] := by
      rw [find_append_markers h]
      simp
    rw [strip_eq hfound, peel_append_markers h]
    rw [find, List.reverse_eq_nil_iff] at ht
    rw [peel_fst_of_snd ht, trimStart_of_startsSolid hend, List.reverse_reverse]

/-- A text whose last word is no marker has none. -/
theorem find_append_word {a w : Text} (ha : ∀ c ∈ a.getLast?, isBlank c = true) (hne : w ≠ [])
    (hw : ∀ c ∈ w, isBlank c = false) (hm : ∀ m : Marker, w ≠ m.render) : find (a ++ w) = [] := by
  have hw' : ∀ c ∈ w.reverse, isBlank c = false := fun c hc => hw c (List.mem_reverse.mp hc)
  obtain ⟨htake, -⟩ := takeWhile_word_append (r := a.reverse) hw' (by simpa using ha)
  have hstart : StartsSolid (w.reverse ++ a.reverse) :=
    .append (fun c hc => hw' c (List.mem_of_mem_head? hc)) (by simpa using hne) _
  have hnone : ofWord? w = none := by
    rw [Option.eq_none_iff_forall_ne_some]
    exact fun m h => hm m (ofWord?_eq_some_iff.mp h)
  rw [find, List.reverse_append, trimStart_of_startsSolid hstart,
    peel_of_none (by rw [htake, List.reverse_reverse, hnone])]
  rfl

/-- A text has no markers when it ends with a character that is in none. -/
theorem find_concat {c : Char} (hc : isBlank c = false) (hm : ∀ m : Marker, c ∉ m.render)
    (t : Text) : find (t ++ [c]) = [] := by
  have hnone : ofWord? ((c :: t.reverse).takeWhile (!isBlank ·)).reverse = none := by
    rw [Option.eq_none_iff_forall_ne_some]
    intro m h
    refine hm m ?_
    rw [← ofWord?_eq_some_iff.mp h, List.takeWhile_cons_of_pos (by simp [hc])]
    simp
  rw [find, List.reverse_append, List.reverse_singleton, List.singleton_append,
    trimStart_of_startsSolid (startsSolid_cons hc _), peel_of_none hnone]
  rfl

/-! ## Writing and reading -/

/-- A text with markers behind it, each given with what stands before it, and what follows them. -/
def behind (b : Text) (ps : List (Text × Marker)) (trail : Text) : Text :=
  b ++ (ps.flatMap fun p => p.1 ++ p.2.render) ++ trail

/-- Markers can be written behind a text, each after white space.  The first of them needs none where
the text is empty, and white space may follow the last. -/
structure Separated (b : Text) (ps : List (Text × Marker)) (trail : Text) : Prop where
  nonempty : ps ≠ []
  gaps : ∀ p ∈ ps, ∀ c ∈ p.1, isBlank c = true
  first : b ≠ [] → ∀ p ∈ ps.head?, p.1 ≠ []
  later : ∀ p ∈ ps.tail, p.1 ≠ []
  trail : ∀ c ∈ trail, isBlank c = true

/-- A marker that stands alone is found, with those behind it. -/
theorem lone_marker (m : Marker) {ps : List (Text × Marker)}
    (h : ∀ p ∈ ps, p.1 ≠ [] ∧ ∀ c ∈ p.1, isBlank c = true) :
    find (m.render ++ ps.flatMap fun p => p.1 ++ p.2.render) = m :: ps.map Prod.snd ∧
      strip (m.render ++ ps.flatMap fun p => p.1 ++ p.2.render) = [] := by
  have hsolid : StartsSolid m.render.reverse := by
    intro c hc
    exact isBlank_of_mem_render c (List.mem_reverse.mp (List.mem_of_mem_head? hc))
  have hpeel : peel (trimStart m.render.reverse) = ([], [m]) := by
    rw [trimStart_of_startsSolid hsolid, ← List.append_nil m.render.reverse,
      peel_render_append m (by simp)]
    simp [trimStart, peel_nil]
  have hfind : find (m.render ++ ps.flatMap fun p => p.1 ++ p.2.render) = m :: ps.map Prod.snd := by
    rw [find_append_markers h, find, hpeel]
    rfl
  refine ⟨hfind, ?_⟩
  rw [strip_eq (by rw [hfind]; simp), peel_append_markers h, hpeel]
  rfl

/-- Markers are found behind a text that has none, and stripping them gives the text back. -/
theorem decode_behind {b : Text} {ps : List (Text × Marker)} {trail : Text}
    (hb : find b = []) (hend : ∀ c ∈ b.getLast?, isBlank c = false) (h : Separated b ps trail) :
    find (behind b ps trail) = ps.map Prod.snd ∧ strip (behind b ps trail) = b := by
  -- white space behind the markers does not matter
  suffices hmarked : find (b ++ ps.flatMap fun p => p.1 ++ p.2.render) = ps.map Prod.snd ∧
      strip (b ++ ps.flatMap fun p => p.1 ++ p.2.render) = b by
    have hsome : find (b ++ ps.flatMap fun p => p.1 ++ p.2.render) ≠ [] := by
      rw [hmarked.1]
      simpa using h.nonempty
    rw [behind, find_append_blank h.trail, strip_append_blank h.trail hsome]
    exact hmarked
  obtain ⟨p, ps, rfl⟩ := List.exists_cons_of_ne_nil h.nonempty
  have hlater : ∀ q ∈ ps, q.1 ≠ [] ∧ ∀ c ∈ q.1, isBlank c = true := fun q hq =>
    ⟨h.later q hq, h.gaps q (List.mem_cons_of_mem p hq)⟩
  by_cases hfirst : p.1 = []
  · -- only an empty text has its first marker right behind it
    have hnil : b = [] := by
      by_contra hne
      exact h.first hne p rfl hfirst
    subst hnil
    obtain ⟨hfind, hstrip⟩ := lone_marker p.2 hlater
    rw [List.flatMap_cons, hfirst]
    exact ⟨hfind, hstrip⟩
  · have hall : ∀ q ∈ p :: ps, q.1 ≠ [] ∧ ∀ c ∈ q.1, isBlank c = true :=
      List.forall_mem_cons.mpr ⟨⟨hfirst, h.gaps p (List.mem_cons_self ..)⟩, hlater⟩
    have hsolid : StartsSolid b.reverse := by
      intro c hc
      rw [List.head?_reverse] at hc
      exact hend c hc
    exact ⟨by rw [find_append_markers hall, hb, List.nil_append],
      strip_append_markers hall hb hsolid⟩

/-- **Trailing markers decode what was written.**  Markers written behind a text without markers are
found in the order written, and without them the text is left.  Of any other text stripping leaves
the front, and no marker in it. -/
theorem find_strip_behind :
    (∀ (b : Text) (ps : List (Text × Marker)) (trail : Text), find b = [] →
      (∀ c ∈ b.getLast?, isBlank c = false) → Separated b ps trail →
        find (behind b ps trail) = ps.map Prod.snd ∧ strip (behind b ps trail) = b) ∧
      ∀ t, strip t <+: t ∧ find (strip t) = [] ∧ (find t = [] → strip t = t) :=
  ⟨fun _ _ _ hb hend h => decode_behind hb hend h,
    fun t => ⟨strip_isPrefix t, find_strip t, strip_of_find_eq_nil⟩⟩

/-- Texts that end like a marker, a marker that stands alone, and separators of other alphabets. -/
theorem find_strip_behind_percent :
    let b := "50% %%".toList
    let ps : List (Text × Marker) :=
      [("\t\u3000".toList, ⟨.doc, .paragraph⟩), (" ".toList, ⟨.slides, .bare⟩)]
    let lone : List (Text × Marker) := [([], ⟨.doc, .item⟩), ("\u2003".toList, ⟨.doc, .list⟩)]
    (find b = [] ∧ (∀ c ∈ b.getLast?, isBlank c = false) ∧ Separated b ps "\n".toList ∧
      Separated [] lone []) ∧
      behind b ps "\n".toList = "50% %%\t\u3000%p &\n".toList ∧
      find (behind b ps "\n".toList) = [⟨.doc, .paragraph⟩, ⟨.slides, .bare⟩] ∧
      strip (behind b ps "\n".toList) = b ∧
      behind [] lone [] = "%i\u2003%l".toList ∧
      find (behind [] lone []) = [⟨.doc, .item⟩, ⟨.doc, .list⟩] ∧ strip (behind [] lone []) = [] := by
  intro b ps lone
  have hb : find b = [] := by decide +kernel
  have hend : ∀ c ∈ b.getLast?, isBlank c = false := by
    intro c hc
    obtain rfl : '%' = c := by simpa [b] using hc
    decide
  have hps : Separated b ps "\n".toList := by
    constructor <;> simp [b, ps] <;> decide
  have hlone : Separated [] lone [] := by
    constructor <;> simp [lone]
    decide
  obtain ⟨hfind, hstrip⟩ := find_strip_behind.1 b ps _ hb hend hps
  obtain ⟨hfind', hstrip'⟩ := find_strip_behind.1 [] lone [] (by decide +kernel) (by simp) hlone
  exact ⟨⟨hb, hend, hps, hlone⟩, by decide +kernel, hfind, hstrip, by decide +kernel, hfind', hstrip'⟩

end Marker

end Literate

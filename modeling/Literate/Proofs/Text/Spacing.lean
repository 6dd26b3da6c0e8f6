import Mathlib
import Literate.Proofs.Text.Join

/-!
# Texts that differ in white space

Two texts with the same words between other white space are laid side by side: a stretch is one
character of both, or white space of the one and white space of the other.  An operation on texts
respects white space when it cuts both sides at the same stretch.

* `side`: the two texts of a list of stretches.
* `trim_side`, `takeWhile_dropWhile_side`: ends and words.
* `cut_side`, `pieces_side`: separators.
* `words_side`: words are the same on both sides.
* `search_side`: what is found by a reader that respects white space.
-/

namespace Literate.Text

/-- White space between words: some characters, all of them blank. -/
def Gap : Type := { t : Text // t ≠ [] ∧ ∀ c ∈ t, isBlank c = true }

/-- A text is white space between words when it can be checked to be. -/
def Gap.of (t : Text) (hne : t ≠ []) (hblank : t.all isBlank = true) : Gap :=
  ⟨t, hne, List.all_eq_true.mp hblank⟩

/-- A single space. -/
def Gap.space : Gap := .of [' '] (by decide) (by decide)

/-- A single tab. -/
def Gap.tab : Gap := .of ['\t'] (by decide) (by decide)

/-- A stretch of two texts. -/
inductive Stretch
  /-- One character of both. -/
  | same (c : Char)
  /-- White space of the one, and of the other. -/
  | gap (a b : Gap)

namespace Stretch

/-- The stretch in the first text, or in the second. -/
def on (second : Bool) : Stretch → Text
  | same c => [c]
  | gap a b => if second then b.1 else a.1

/-- Whether a stretch is white space. -/
def isBlank : Stretch → Bool
  | same c => Text.isBlank c
  | gap _ _ => true

/-- The stretch read from behind. -/
def reverse : Stretch → Stretch
  | same c => same c
  | gap a b => gap ⟨a.1.reverse, by simpa using a.2⟩ ⟨b.1.reverse, by simpa using b.2⟩

theorem reverse_reverse (p : Stretch) : p.reverse.reverse = p := by
  cases p with
  | same c => rfl
  | gap a b =>
    obtain ⟨a, ha⟩ := a
    obtain ⟨b, hb⟩ := b
    simp only [reverse, List.reverse_reverse]

variable (second : Bool) (p : Stretch)

theorem on_ne_nil : p.on second ≠ [] := by
  cases p with
  | same c => simp [on]
  | gap a b => cases second with
    | false => exact a.2.1
    | true => exact b.2.1

theorem isBlank_of_mem_on {c : Char} (h : c ∈ p.on second) : Text.isBlank c = p.isBlank := by
  cases p with
  | same d =>
    obtain rfl := List.mem_singleton.mp h
    rfl
  | gap a b => cases second with
    | false => exact a.2.2 c h
    | true => exact b.2.2 c h

/-- A stretch that is no white space is one character. -/
theorem eq_same_of_not_isBlank {p : Stretch} (h : p.isBlank = false) :
    ∃ c, p = same c ∧ Text.isBlank c = false := by
  cases p with
  | same c => exact ⟨c, rfl, h⟩
  | gap a b => cases h

end Stretch

open Stretch

/-- The first of two texts, or the second. -/
def side (second : Bool) (ps : List Stretch) : Text := ps.flatMap (on second)

section

variable (second : Bool) (p : Stretch) (ps qs : List Stretch)

theorem side_nil : side second [] = [] := rfl

theorem side_cons : side second (p :: ps) = p.on second ++ side second ps := rfl

theorem side_same (c : Char) : side second (.same c :: ps) = c :: side second ps := rfl

theorem side_eq_nil_iff {ps : List Stretch} : side second ps = [] ↔ ps = [] := by
  cases ps with
  | nil => simp [side_nil]
  | cons p ps => simp [side_cons, on_ne_nil]

theorem side_append : side second (ps ++ qs) = side second ps ++ side second qs :=
  List.flatMap_append

theorem side_reverse :
    (side second ps).reverse = side second (ps.reverse.map Stretch.reverse) := by
  induction ps with
  | nil => rfl
  | cons p ps ih =>
    have hp : (p.on second).reverse = side second [p.reverse] := by
      cases p with
      | same c => rfl
      | gap a b => cases second <;> simp [side, on, Stretch.reverse]
    rw [side_cons, List.reverse_append, ih, hp, ← side_append]
    simp

variable {ps}

theorem isBlank_of_mem_side (h : ∀ p ∈ ps, p.isBlank = true) :
    ∀ c ∈ side second ps, Text.isBlank c = true := by
  intro c hc
  obtain ⟨p, hp, hc⟩ := List.mem_flatMap.mp hc
  rw [isBlank_of_mem_on second p hc, h p hp]

theorem not_isBlank_of_mem_side (h : ∀ p ∈ ps, p.isBlank = false) :
    ∀ c ∈ side second ps, Text.isBlank c = false := by
  intro c hc
  obtain ⟨p, hp, hc⟩ := List.mem_flatMap.mp hc
  rw [isBlank_of_mem_on second p hc, h p hp]

/-- What begins a text decides whether the text begins with white space. -/
theorem isBlank_head?_side (p : Stretch) (ps : List Stretch) :
    ∀ c ∈ (side second (p :: ps)).head?, Text.isBlank c = p.isBlank := by
  intro c hc
  rw [side_cons, List.head?_append_of_ne_nil _ (on_ne_nil second p)] at hc
  exact isBlank_of_mem_on second p (List.mem_of_mem_head? hc)

/-- Two sides without changed white space are the same. -/
theorem side_congr (h : ∀ p ∈ ps, ∃ c, p = .same c) : side second ps = side false ps := by
  induction ps with
  | nil => rfl
  | cons p ps ih =>
    obtain ⟨⟨c, rfl⟩, hps⟩ := List.forall_mem_cons.mp h
    rw [side_same, side_same, ih hps]

/-- A text without white space is the same on both sides. -/
theorem side_eq_of_not_isBlank (h : ∀ p ∈ ps, p.isBlank = false) :
    side second ps = side false ps := by
  refine side_congr second fun p hp => ?_
  obtain ⟨c, rfl, -⟩ := eq_same_of_not_isBlank (h p hp)
  exact ⟨c, rfl⟩

end

/-! ## Ends -/

section

variable (second : Bool) (ps : List Stretch)

theorem trimStart_side :
    trimStart (side second ps) = side second (ps.dropWhile Stretch.isBlank) := by
  induction ps with
  | nil => rfl
  | cons p ps ih =>
    cases hp : p.isBlank with
    | true =>
      rw [List.dropWhile_cons_of_pos hp, ← ih, side_cons]
      exact trimStart_blank_append (fun c hc => (isBlank_of_mem_on second p hc).trans hp) _
    | false =>
      rw [List.dropWhile_cons_of_neg (by simp [hp])]
      exact trimStart_of_startsSolid fun c hc => (isBlank_head?_side second p ps c hc).trans hp

theorem trimEnd_side : trimEnd (side second ps) = side second (ps.rdropWhile Stretch.isBlank) := by
  induction ps using List.reverseRecOn with
  | nil => rfl
  | append_singleton ps p ih =>
    cases hp : p.isBlank with
    | true =>
      rw [List.rdropWhile_concat_pos _ _ _ hp, ← ih, side_append]
      refine trimEnd_append_blank (fun c hc => ?_) _
      exact isBlank_of_mem_side second (by simpa using hp) c hc
    | false =>
      rw [List.rdropWhile_concat_neg _ _ _ (by simp [hp])]
      obtain ⟨c, rfl, hc⟩ := eq_same_of_not_isBlank hp
      rw [side_append, side_same, trimEnd_append hc]
      rfl

/-- White space at both ends. -/
def trimmed (ps : List Stretch) : List Stretch :=
  (ps.rdropWhile Stretch.isBlank).dropWhile Stretch.isBlank

theorem trim_side : trim (side second ps) = side second (trimmed ps) := by
  rw [trim, trimEnd_side, trimStart_side, trimmed]

theorem trimmed_isInfix : trimmed ps <:+: ps :=
  (List.dropWhile_suffix _).isInfix.trans (List.rdropWhile_prefix _ ps).isInfix

/-- The word that a text begins with is the same on both sides. -/
theorem takeWhile_dropWhile_side :
    (side second ps).takeWhile (!Text.isBlank ·) =
        side false (ps.takeWhile (!Stretch.isBlank ·)) ∧
      (side second ps).dropWhile (!Text.isBlank ·) =
        side second (ps.dropWhile (!Stretch.isBlank ·)) := by
  have hsolid : ∀ p ∈ ps.takeWhile (!Stretch.isBlank ·), p.isBlank = false := fun p hp => by
    simpa using List.mem_takeWhile_imp hp
  have hword : ∀ c ∈ side second (ps.takeWhile (!Stretch.isBlank ·)), Text.isBlank c = false :=
    not_isBlank_of_mem_side second hsolid
  have hrest : ∀ c ∈ (side second (ps.dropWhile (!Stretch.isBlank ·))).head?,
      Text.isBlank c = true := by
    have hhead := List.head?_dropWhile_not (!Stretch.isBlank ·) ps
    cases hdrop : ps.dropWhile (!Stretch.isBlank ·) with
    | nil => simp [side_nil]
    | cons p rest =>
      rw [hdrop] at hhead
      intro c hc
      rw [isBlank_head?_side second p rest c hc]
      simpa using hhead
  have hsplit : side second ps = side second (ps.takeWhile (!Stretch.isBlank ·)) ++
      side second (ps.dropWhile (!Stretch.isBlank ·)) := by
    rw [← side_append, List.takeWhile_append_dropWhile]
  obtain ⟨htake, hdrop⟩ := takeWhile_word_append hword hrest
  rw [hsplit]
  exact ⟨htake.trans (side_eq_of_not_isBlank second hsolid), hdrop⟩

end

/-! ## Separators -/

theorem notMem_side {c : Char} (hc : Text.isBlank c = false) {ps : List Stretch}
    (h : Stretch.same c ∉ ps) (second : Bool) : c ∉ side second ps := by
  intro hmem
  obtain ⟨p, hp, hcp⟩ := List.mem_flatMap.mp hmem
  obtain ⟨d, rfl, -⟩ := eq_same_of_not_isBlank ((isBlank_of_mem_on second p hcp).symm.trans hc)
  obtain rfl := List.mem_singleton.mp hcp
  exact h hp

/-- A separator that is not blank cuts both sides at the same stretch. -/
theorem cut_side {sep : Char} (hsep : Text.isBlank sep = false) (ps : List Stretch) :
    (∀ second, cut sep (side second ps) = (side second ps, none)) ∨
      ∃ front back, ps = front ++ .same sep :: back ∧ .same sep ∉ front ∧
        ∀ second, cut sep (side second ps) = (side second front, some (side second back)) := by
  by_cases hmem : Stretch.same sep ∈ ps
  · obtain ⟨front, back, hps, hfront⟩ := List.eq_append_cons_of_mem hmem
    refine .inr ⟨front, back, hps, hfront, fun second => ?_⟩
    rw [hps, side_append, side_same, cut_append (notMem_side hsep hfront second)]
  · exact .inl fun second => cut_of_notMem (notMem_side hsep hmem second)

/-- White space without the separator goes to the first piece. -/
theorem pieces_append_of_notMem {sep : Char} {a t p : Text} {ps : List Text} (ha : sep ∉ a)
    (h : pieces sep t = p :: ps) : pieces sep (a ++ t) = (a ++ p) :: ps := by
  induction a with
  | nil => exact h
  | cons c a ih =>
    rw [List.mem_cons, not_or] at ha
    exact pieces_cons (Ne.symm ha.1) (ih ha.2)

theorem pieces_side {sep : Char} (hsep : Text.isBlank sep = false) (ps : List Stretch) :
    ∃ parts : List (List Stretch),
      ∀ second, pieces sep (side second ps) = parts.map (side second) := by
  induction ps with
  | nil => exact ⟨[[]], fun _ => rfl⟩
  | cons p ps ih =>
    obtain ⟨parts, hparts⟩ := ih
    by_cases hp : p = .same sep
    · subst hp
      refine ⟨[] :: parts, fun second => ?_⟩
      rw [side_same, pieces, if_pos rfl, hparts]
      rfl
    · obtain ⟨part, parts, rfl⟩ : ∃ part parts', parts = part :: parts' := by
        cases parts with
        | nil =>
          obtain ⟨q, qs, hq⟩ := exists_pieces_eq_cons sep (side false ps)
          rw [hparts] at hq
          cases hq
        | cons part parts => exact ⟨part, parts, rfl⟩
      refine ⟨(p :: part) :: parts, fun second => ?_⟩
      have hnot : sep ∉ side second [p] := notMem_side hsep (by simpa using Ne.symm hp) second
      have hsplit : side second (p :: ps) = side second [p] ++ side second ps :=
        side_append second [p] ps
      rw [hsplit, pieces_append_of_notMem hnot (hparts second), ← side_append]
      rfl

/-! ## Words -/

/-- The first word of a text that begins with one. -/
theorem words_cons {c : Char} (hc : Text.isBlank c = false) (t : Text) :
    words (c :: t) = (c :: t).takeWhile (!Text.isBlank ·) ::
      words ((c :: t).dropWhile (!Text.isBlank ·)) := by
  have hne : (c :: t).takeWhile (!Text.isBlank ·) ≠ [] := by
    rw [List.takeWhile_cons_of_pos (by simp [hc])]
    simp
  have hword : ∀ d ∈ (c :: t).takeWhile (!Text.isBlank ·), Text.isBlank d = false := fun d hd => by
    simpa using List.mem_takeWhile_imp hd
  have hrest : ∀ d ∈ ((c :: t).dropWhile (!Text.isBlank ·)).head?, Text.isBlank d = true := by
    have hhead := List.head?_dropWhile_not (!Text.isBlank ·) (c :: t)
    intro d hd
    rw [Option.mem_def.mp hd] at hhead
    simpa using hhead
  conv_lhs => rw [← List.takeWhile_append_dropWhile (p := (!Text.isBlank ·)) (l := c :: t)]
  exact words_append hne hword hrest

/-- White space behind a text does not matter to its words. -/
theorem words_append_blank {bs : Text} (h : ∀ c ∈ bs, Text.isBlank c = true) (t : Text) :
    words (t ++ bs) = words t := by
  have hnil : words bs = [] := by
    rw [← List.append_nil bs, words_blank_append h]
    rfl
  induction t with
  | nil => exact hnil
  | cons c t ih =>
    cases hc : Text.isBlank c with
    | true => rw [List.cons_append, words_blank hc, words_blank hc, ih]
    | false =>
      cases t with
      | nil =>
        have hword : ∀ d ∈ [c], Text.isBlank d = false := List.forall_mem_singleton.mpr hc
        have hhead : ∀ d ∈ bs.head?, Text.isBlank d = true := fun d hd =>
          h d (List.mem_of_mem_head? hd)
        have hlone : words [c] = [[c]] := words_append (List.cons_ne_nil c []) hword (by simp)
        rw [words_append (List.cons_ne_nil c []) hword hhead, hnil, hlone]
      | cons d t =>
        rw [List.cons_append, List.cons_append, words.eq_def (c :: d :: (t ++ bs)),
          words.eq_def (c :: d :: t)]
        simp only [← List.cons_append, ih]

theorem words_trim (t : Text) : words (trim t) = words t := by
  obtain ⟨front, hfront, hblank⟩ := exists_eq_append_trimStart (trimEnd t)
  obtain ⟨back, hback, hblank'⟩ := exists_eq_append_trimStart t.reverse
  rw [← reverse_trimEnd] at hback
  have ht : t = trimEnd t ++ back.reverse := by
    rw [← List.reverse_inj, List.reverse_append, List.reverse_reverse, hback]
  calc words (trim t) = words (front ++ trim t) := (words_blank_append hblank _).symm
    _ = words (trimEnd t) := by rw [trim, ← hfront]
    _ = words (trimEnd t ++ back.reverse) := by
      rw [words_append_blank fun c hc => hblank' c (List.mem_reverse.mp hc)]
    _ = words t := by rw [← ht]

/-- **Words are the same on both sides.** -/
theorem words_side (second : Bool) (ps : List Stretch) :
    words (side second ps) = words (side false ps) := by
  induction hn : ps.length using Nat.strong_induction_on generalizing ps with
  | _ n ih =>
  subst hn
  cases ps with
  | nil => rfl
  | cons p ps =>
    cases hp : p.isBlank with
    | true =>
      have hblank (second : Bool) : words (side second (p :: ps)) = words (side second ps) :=
        words_blank_append (fun c hc => (isBlank_of_mem_on second p hc).trans hp) _
      rw [hblank, hblank]
      exact ih _ (by simp) ps rfl
    | false =>
      have hshorter : ((p :: ps).dropWhile (!Stretch.isBlank ·)).length < (p :: ps).length := by
        rw [List.dropWhile_cons_of_pos (by simp [hp]), List.length_cons]
        exact Nat.lt_succ_of_le (List.dropWhile_suffix _).length_le
      have hfirst : ∀ second, words (side second (p :: ps)) =
          side false ((p :: ps).takeWhile (!Stretch.isBlank ·)) ::
            words (side second ((p :: ps).dropWhile (!Stretch.isBlank ·))) := by
        intro second
        obtain ⟨htake, hdrop⟩ := takeWhile_dropWhile_side second (p :: ps)
        rw [← htake, ← hdrop]
        obtain ⟨c, rfl, hc⟩ := eq_same_of_not_isBlank hp
        exact words_cons hc _
      rw [hfirst, hfirst, ih _ hshorter _ rfl]

/-! ## Readers -/

theorem afterPrefix?_side {key : Text} (hkey : ∀ c ∈ key, Text.isBlank c = false)
    (ps : List Stretch) :
    (∀ second, afterPrefix? key (side second ps) = none) ∨
      ∃ rest, ps = key.map .same ++ rest ∧
        ∀ second, afterPrefix? key (side second ps) = some (side second rest) := by
  induction key generalizing ps with
  | nil => exact .inr ⟨ps, rfl, fun _ => rfl⟩
  | cons c key ih =>
    obtain ⟨hc, hkey⟩ := List.forall_mem_cons.mp hkey
    cases ps with
    | nil => exact .inl fun _ => rfl
    | cons p ps =>
      by_cases hp : p = .same c
      · subst hp
        rcases ih hkey ps with hnone | ⟨rest, rfl, hsome⟩
        · exact .inl fun second => by rw [side_same, afterPrefix?, if_pos rfl, hnone]
        · exact .inr ⟨rest, rfl, fun second => by rw [side_same, afterPrefix?, if_pos rfl, hsome]⟩
      · refine .inl fun second => ?_
        rw [Option.eq_none_iff_forall_ne_some]
        intro rest hrest
        have heq := afterPrefix?_eq_some_iff.mp hrest
        have hhead := isBlank_head?_side second p ps c (by rw [heq]; rfl)
        obtain ⟨d, rfl, -⟩ := eq_same_of_not_isBlank (hhead.symm.trans hc)
        obtain ⟨rfl, -⟩ := List.cons.inj heq
        exact hp rfl

section

variable {α : Type} {m : Text → Option (α × Text)} {P : List Stretch → (Bool → α) → Prop}

/-- A reader respects white space: it finds something on both sides or on neither, the same
stretches, which `P` says are read as what is found. -/
def Respects (m : Text → Option (α × Text)) (P : List Stretch → (Bool → α) → Prop) : Prop :=
  ∀ ps, (∀ second, m (side second ps) = none) ∨
    ∃ qs rest a, ps = qs ++ rest ∧ P qs a ∧
      ∀ second, m (side second ps) = some (a second, side second rest)

theorem search_blank_append (hblank : ∀ c t, Text.isBlank c = true → m (c :: t) = none) {bs : Text}
    (hbs : ∀ c ∈ bs, Text.isBlank c = true) (t : Text) :
    search m (bs ++ t) = (search m t).map fun found => (bs ++ found.1, found.2) := by
  induction bs with
  | nil => simp
  | cons c bs ih =>
    obtain ⟨hc, hbs⟩ := List.forall_mem_cons.mp hbs
    rw [List.cons_append, search, hblank c _ hc, ih hbs]
    cases search m t <;> rfl

/-- **What is found is the same on both sides**, and it stands at the same stretch. -/
theorem search_side (hm : Respects m P) (hblank : ∀ c t, Text.isBlank c = true → m (c :: t) = none)
    (ps : List Stretch) :
    (∀ second, search m (side second ps) = none) ∨
      ∃ front qs back a, ps = front ++ (qs ++ back) ∧ P qs a ∧
        ∀ second,
          search m (side second ps) = some (side second front, a second, side second back) := by
  have hfound : ∀ {t rest : Text} {a : α}, m t = some (a, rest) →
      search m t = some ([], a, rest) := by
    intro t rest a h
    cases t <;> simp [search, h]
  induction ps with
  | nil =>
    rcases hm [] with hnone | ⟨qs, rest, a, hps, hP, hsome⟩
    · exact .inl fun second => by rw [side_nil, search, ← side_nil second, hnone]
    · exact .inr ⟨[], qs, rest, a, hps, hP, fun second => hfound (hsome second)⟩
  | cons p ps ih =>
    rcases hm (p :: ps) with hnone | ⟨qs, rest, a, hps, hP, hsome⟩
    · have hstep : ∀ second, search m (side second (p :: ps)) =
          (search m (side second ps)).map fun found => (p.on second ++ found.1, found.2) := by
        intro second
        cases hp : p.isBlank with
        | true =>
          exact search_blank_append hblank
            (fun c hc => (isBlank_of_mem_on second p hc).trans hp) _
        | false =>
          obtain ⟨c, rfl, -⟩ := eq_same_of_not_isBlank hp
          have hc := hnone second
          rw [side_same] at hc ⊢
          rw [search, hc]
          cases search m (side second ps) <;> rfl
      rcases ih with hnone | ⟨front, qs, back, a, rfl, hP, hsome⟩
      · exact .inl fun second => by rw [hstep, hnone, Option.map_none]
      · exact .inr ⟨p :: front, qs, back, a, rfl, hP, fun second => by
          rw [hstep, hsome, Option.map_some, side_cons]⟩
    · exact .inr ⟨[], qs, rest, a, hps, hP, fun second => hfound (hsome second)⟩

end

end Literate.Text

import Mathlib
import Literate.Info
import Literate.Proofs.Text.Join

/-!
# Cutting options out

An info string is read in turns.  Each turn cuts out the leftmost text that looks like an option of
one kind, wherever it stands.  So a turn finds the option that was written exactly when no part in
front of it looks like that option.

* `Info.Silent`: a part in which nothing is recognised.
* `Info.takeOption_spaced`: one turn over parts with spaces before them.
* `Info.bracketed?_append`, `Info.exported?_append`: an option that was written is recognised.
* `Info.silent_bracketed?`, `Info.silent_exported?`: what looks like no option.
-/

namespace Literate

open Text

namespace Info

/-- What may follow a part: nothing, or a space and then anything but an equals sign. -/
structure Calm (rest : Text) : Prop where
  space : ∀ c ∈ rest.head?, c = ' '
  noEquals : ∀ c ∈ (trimStart rest).head?, c ≠ '='

/-- A part that begins neither with a blank nor with an equals sign. -/
def Mild (u : Text) : Prop := ∀ c ∈ u.head?, isBlank c = false ∧ c ≠ '='

theorem isBlank_space : ∀ c ∈ [' '], isBlank c = true := List.forall_mem_singleton.mpr (by decide)

theorem calm_spaced {us : List Text} (h : ∀ u ∈ us, Mild u) : Calm (spaced us) := by
  refine ⟨head?_spaced, ?_⟩
  induction us with
  | nil => simp [spaced, trimStart]
  | cons u us ih =>
    obtain ⟨hu, hus⟩ := List.forall_mem_cons.mp h
    have hspace : trimStart (spaced (u :: us)) = trimStart (u ++ spaced us) :=
      trimStart_blank_append isBlank_space _
    rw [hspace]
    cases u with
    | nil => exact ih hus
    | cons c u =>
      obtain ⟨hsolid, hne⟩ := hu c rfl
      rw [List.cons_append, trimStart_of_startsSolid (startsSolid_cons hsolid _)]
      simpa using hne

/-! ## One turn -/

section

variable {α : Type} {m : Text → Option (α × Text)} {u rest : Text}

/-- A part in which `m` recognises nothing, whatever calm text follows. -/
def Silent (m : Text → Option (α × Text)) (u : Text) : Prop :=
  ∀ q, q <:+ u → q ≠ [] → ∀ rest, Calm rest → m (q ++ rest) = none

theorem Silent.of_suffix {v : Text} (h : Silent m u) (hv : v <:+ u) : Silent m v :=
  fun q hq => h q (hq.trans hv)

/-- Characters that begin nothing that `m` recognises. -/
theorem Silent.append_left {w : Text} (hw : ∀ c ∈ w, ∀ t, m (c :: t) = none) (h : Silent m u) :
    Silent m (w ++ u) := by
  induction w with
  | nil => exact h
  | cons c w ih =>
    rw [List.forall_mem_cons] at hw
    intro q hq hne rest hrest
    rcases List.suffix_cons_iff.mp hq with rfl | hq
    · exact hw.1 _
    · exact ih hw.2 q hq hne rest hrest

theorem takeOption_of_some {t : Text} {a : α} (h : m t = some (a, rest)) :
    takeOption m t = (some a, rest) := by
  cases t <;> simp [takeOption, search, h]

theorem takeOption_cons {c : Char} {t : Text} (h : m (c :: t) = none) :
    takeOption m (c :: t) = ((takeOption m t).1, c :: (takeOption m t).2) := by
  rw [takeOption, takeOption, search, h]
  cases search m t <;> rfl

/-- Nothing is found in a silent part. -/
theorem takeOption_append (h : Silent m u) (hrest : Calm rest) :
    takeOption m (u ++ rest) = ((takeOption m rest).1, u ++ (takeOption m rest).2) := by
  induction u with
  | nil => rfl
  | cons c u ih =>
    have hc : m (c :: (u ++ rest)) = none := h (c :: u) List.suffix_rfl (by simp) rest hrest
    rw [List.cons_append, takeOption_cons hc, ih (h.of_suffix (List.suffix_cons c u))]
    rfl

/-- Spaces in front of a text stay when an option is cut out. -/
theorem takeOption_of_spaces {bs t s : Text} {a? : Option α} (hm : ∀ t, m (' ' :: t) = none)
    (hbs : ∀ c ∈ bs, c = ' ') (h : takeOption m (bs ++ t) = (a?, s)) :
    ∃ r, takeOption m t = (a?, r) ∧ s = bs ++ r := by
  induction bs generalizing s with
  | nil => exact ⟨s, h, rfl⟩
  | cons c bs ih =>
    obtain ⟨rfl, hrest⟩ := List.forall_mem_cons.mp hbs
    rw [List.cons_append, takeOption_cons (hm _)] at h
    obtain ⟨rfl, rfl⟩ := Prod.mk.inj h
    obtain ⟨r, htake, hr⟩ := ih hrest rfl
    exact ⟨r, htake, congrArg (' ' :: ·) hr⟩

/-- **One turn.**  Of parts with spaces before them at most one holds an option.  It is cut out when
no part before it looks like one. -/
theorem takeOption_spaced {ι : Type} {f g : ι → Text} {option? : ι → Option α} {ps : List ι}
    {a? : Option α} (hend : m [] = none) (hspace : ∀ t, m (' ' :: t) = none)
    (hone : ps.filterMap option? = a?.toList) (hmild : ∀ p ∈ ps, Mild (f p))
    (hcut : ∀ p ∈ ps, g p = if (option? p).isSome then [] else f p)
    (hfound : ∀ p ∈ ps, ∀ a, option? p = some a →
      ∀ rest, Calm rest → m (f p ++ rest) = some (a, rest))
    (hsilent : ∀ front p back, ps = front ++ p :: back → front.filterMap option? = [] →
      option? p = none → Silent m (f p)) :
    takeOption m (spaced (ps.map f)) = (a?, spaced (ps.map g)) := by
  induction ps with
  | nil =>
    cases a? with
    | none => simp [spaced, takeOption, search, hend]
    | some a => cases hone
  | cons p ps ih =>
    rw [List.forall_mem_cons] at hmild hcut hfound
    have hcalm : Calm (spaced (ps.map f)) := calm_spaced (by simpa using hmild.2)
    rw [List.map_cons, List.map_cons, spaced_cons, spaced_cons, takeOption_cons (hspace _)]
    cases hp : option? p with
    | none =>
      rw [List.filterMap_cons_none hp] at hone
      have hrest := ih hone hmild.2 hcut.2 hfound.2 fun front q back hps hfront hq =>
        hsilent (p :: front) q back (by rw [hps]; rfl) (by rwa [List.filterMap_cons_none hp]) hq
      rw [takeOption_append (hsilent [] p ps rfl rfl hp) hcalm, hrest, hcut.1, hp]
      rfl
    | some a =>
      rw [List.filterMap_cons_some hp] at hone
      obtain ⟨rfl, hnone⟩ : a? = some a ∧ ps.filterMap option? = [] := by
        cases a? with
        | none => cases hone
        | some b => simpa [eq_comm] using hone
      have hsame : ps.map g = ps.map f := by
        refine List.map_congr_left fun q hq => ?_
        rw [hcut.2 q hq, List.filterMap_eq_nil_iff.mp hnone q hq]
        rfl
      rw [takeOption_of_some (hfound.1 a hp _ hcalm), hcut.1, hp, hsame]
      rfl

end

/-! ## What is recognised -/

/-- A text without spaces at the beginning of a part and what follows stands in the part. -/
theorem exists_eq_append_of_space {key q rest r : Text} (hkey : ' ' ∉ key)
    (hrest : ∀ c ∈ rest.head?, c = ' ') (h : q ++ rest = key ++ r) :
    ∃ q', q = key ++ q' ∧ r = q' ++ rest := by
  rcases List.append_eq_append_iff.mp h with ⟨gap, rfl, hgap⟩ | h
  · cases gap with
    | nil => exact ⟨[], by simp, by simpa using hgap.symm⟩
    | cons c gap =>
      have hc := hrest c (by rw [hgap]; rfl)
      exact absurd (by simp [hc]) hkey
  · exact h

section

variable {key : Text}

theorem bracketed?_append {inner : Text} (h : ']' ∉ inner) (rest : Text) :
    bracketed? key (key ++ (inner ++ ']' :: rest)) = some (inner, rest) := by
  rw [bracketed?, afterPrefix?_append]
  simp only [cut_append h]

theorem bracketed?_cons {c d : Char} (h : d ≠ c) (t : Text) :
    bracketed? (c :: key) (d :: t) = none := by
  simp [bracketed?, afterPrefix?, h.symm]

/-- Where no bracket opens, no bracketed option begins. -/
theorem silent_bracketed? {u : Text} (hkey : ' ' ∉ key) (hopen : '[' ∈ key) (hu : '[' ∉ u) :
    Silent (bracketed? key) u := by
  intro q hq _ rest hrest
  cases hafter : afterPrefix? key (q ++ rest) with
  | none => rw [bracketed?, hafter]
  | some r =>
    obtain ⟨q', rfl, -⟩ :=
      exists_eq_append_of_space hkey hrest.space (afterPrefix?_eq_some_iff.mp hafter)
    exact absurd (hq.subset (List.mem_append_left q' hopen)) hu

end

theorem exported?_cons {c : Char} (h : c ≠ 'e') (t : Text) : exported? (c :: t) = none := by
  simp [exported?, afterPrefix?, h.symm]

theorem exported?_append {path rest : Text} (hne : path ≠ [])
    (hsolid : ∀ c ∈ path, isBlank c = false) (hrest : Calm rest) :
    exported? ("export=".toList ++ (path ++ rest)) = some (path, rest) := by
  have hblank : ∀ c ∈ rest.head?, isBlank c = true := by
    intro c hc
    rw [hrest.space c hc]
    decide
  have hstart : StartsSolid (path ++ rest) :=
    .append (fun c hc => hsolid c (List.mem_of_mem_head? hc)) hne rest
  obtain ⟨htake, hdrop⟩ := takeWhile_word_append hsolid hblank
  have hequals : trimStart ('=' :: (path ++ rest)) = '=' :: (path ++ rest) :=
    trimStart_of_startsSolid (startsSolid_cons (by decide) _)
  simp [exported?, afterPrefix?, hequals, trimStart_of_startsSolid hstart, htake, hdrop, hne]

/-- A text with the word `export` and an equals sign in it, with nothing but blanks between them. -/
def NamesTarget (t : Text) : Prop :=
  ∃ front bs back, (∀ c ∈ bs, isBlank c = true) ∧
    t = front ++ ("export".toList ++ (bs ++ '=' :: back))

/-- What is recognised as a target has an equals sign behind its first word. -/
theorem exists_of_exported? {t : Text} (h : exported? t ≠ none) :
    ∃ bs back, (∀ c ∈ bs, isBlank c = true) ∧ t = "export".toList ++ (bs ++ '=' :: back) := by
  rw [exported?] at h
  split at h
  · exact absurd rfl h
  · rename_i r hr
    split at h
    · exact absurd rfl h
    · rename_i s hs
      obtain ⟨bs, hbs, hblank⟩ := exists_eq_append_trimStart r
      rw [afterPrefix?_eq_some_iff.mp hs] at hbs
      exact ⟨bs, s, hblank, by rw [afterPrefix?_eq_some_iff.mp hr, hbs]; rfl⟩

/-- **No target.**  A part in which no equals sign stands behind the word `export`. -/
theorem silent_exported? {u : Text} (hu : ¬NamesTarget u) : Silent exported? u := by
  rintro q ⟨front, rfl⟩ _ rest hrest
  by_contra hfound
  obtain ⟨bs, back, hblank, heq⟩ := exists_of_exported? hfound
  obtain ⟨q', rfl, hq'⟩ := exists_eq_append_of_space (by decide) hrest.space heq
  rcases List.append_eq_append_iff.mp hq' with ⟨gap, rfl, hgap⟩ | ⟨gap, rfl, hgap⟩
  · cases gap with
    | nil =>
      obtain rfl : '=' :: back = rest := hgap
      cases hrest.space '=' rfl
    | cons c gap =>
      obtain ⟨rfl, -⟩ := List.cons.inj hgap
      exact hu ⟨front, bs, gap, hblank, rfl⟩
  · have hall : ∀ c ∈ gap, isBlank c = true := fun c hc => hblank c (by simp [hc])
    refine hrest.noEquals '=' ?_ rfl
    rw [hgap, trimStart_blank_append hall,
      trimStart_of_startsSolid (startsSolid_cons (by decide) _)]
    rfl

end Info

end Literate

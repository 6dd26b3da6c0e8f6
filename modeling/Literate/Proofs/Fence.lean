import Mathlib
import Literate.Fence

/-!
# Fence lines as they are written

A fence line is its indentation, its run of fence characters and the rest of the line.

* `Fence.ofLine?_eq_some_iff`: a line is read as a fence exactly when it is that fence written, and
  the fence is one that can be written.
* `Fence.ofLine?_eq_none_of_allBlank`: a blank line is no fence line.
-/

namespace Literate

open Text

theorem Text.takeWhile_replicate_append {c : Char} (n : ℕ) {r : Text} (h : r.head? ≠ some c) :
    (List.replicate n c ++ r).takeWhile (· == c) = List.replicate n c := by
  induction n with
  | zero =>
    cases r with
    | nil => rfl
    | cons d r =>
      have : d ≠ c := by simpa using h
      simp [this]
  | succ n ih => simp [List.replicate_succ, ih]

theorem Text.dropWhile_replicate_append {c : Char} (n : ℕ) {r : Text} (h : r.head? ≠ some c) :
    (List.replicate n c ++ r).dropWhile (· == c) = r := by
  have := List.takeWhile_append_dropWhile (p := (· == c)) (l := List.replicate n c ++ r)
  rw [takeWhile_replicate_append n h] at this
  exact List.append_cancel_left this

theorem Text.eq_replicate_takeWhile (c : Char) (t : Text) :
    t.takeWhile (· == c) = List.replicate (t.takeWhile (· == c)).length c := by
  rw [List.eq_replicate_iff]
  exact ⟨rfl, fun d hd => by simpa using List.mem_takeWhile_imp hd⟩

theorem Text.head?_dropWhile_ne (c : Char) (t : Text) :
    (t.dropWhile (· == c)).head? ≠ some c := by
  intro h
  have := List.head?_dropWhile_not (· == c) t
  rw [h] at this
  simp at this

namespace FenceKind

theorem ofChar?_eq_some_iff {c : Char} {k : FenceKind} : ofChar? c = some k ↔ c = k.char := by
  unfold ofChar?
  cases k <;> simp only [char] <;> split_ifs <;> simp_all

@[simp] theorem ofChar?_char (k : FenceKind) : ofChar? k.char = some k :=
  ofChar?_eq_some_iff.mpr rfl

theorem char_ne_space (k : FenceKind) : k.char ≠ ' ' := by cases k <;> decide

theorem isBlank_char (k : FenceKind) : isBlank k.char = false := by cases k <;> decide

end FenceKind

namespace Fence

/-- The fence as it is written. -/
def written (f : Fence) : Line := List.replicate f.indent ' ' ++ (f.marker ++ f.rest)

/-- What makes a written fence a fence line. -/
structure Proper (f : Fence) : Prop where
  indent_le : f.indent ≤ 3
  three_le : 3 ≤ f.length
  head_rest : f.rest.head? ≠ some f.kind.char
  backtick_notMem : f.kind = .backtick → '\x60' ∉ f.rest

theorem Proper.head?_marker {f : Fence} (h : f.Proper) (t : Text) :
    (f.marker ++ t).head? = some f.kind.char := by
  obtain ⟨n, hn⟩ : ∃ n, f.length = n + 1 := ⟨f.length - 1, by have := h.three_le; omega⟩
  simp [marker, hn, List.replicate_succ]

theorem ofRun?_eq_some_iff {indent : ℕ} {t : Text} {f : Fence} :
    ofRun? indent t = some f ↔ f.indent = indent ∧ t = f.marker ++ f.rest ∧ 3 ≤ f.length ∧
      f.rest.head? ≠ some f.kind.char ∧ (f.kind = .backtick → '\x60' ∉ f.rest) := by
  constructor
  · intro h
    cases t with
    | nil => cases h
    | cons c r =>
      rw [ofRun?] at h
      cases hk : FenceKind.ofChar? c with
      | none => simp [hk] at h
      | some k =>
        rw [hk] at h
        obtain rfl := FenceKind.ofChar?_eq_some_iff.mp hk
        dsimp only at h
        split_ifs at h with hlen hb
        cases h
        have hsplit := List.takeWhile_append_dropWhile (p := (· == k.char)) (l := k.char :: r)
        rw [eq_replicate_takeWhile] at hsplit
        refine ⟨rfl, hsplit.symm, by simpa using hlen, head?_dropWhile_ne _ _, ?_⟩
        rintro rfl
        simpa using hb
  · rintro ⟨rfl, rfl, hlen, hhead, hb⟩
    obtain ⟨n, hn⟩ : ∃ n, f.length = n + 1 := ⟨f.length - 1, by omega⟩
    have hcons : f.marker ++ f.rest = f.kind.char :: (List.replicate n f.kind.char ++ f.rest) := by
      simp [marker, hn, List.replicate_succ]
    have htake : (f.marker ++ f.rest).takeWhile (· == f.kind.char) = f.marker :=
      takeWhile_replicate_append _ hhead
    have hdrop : (f.marker ++ f.rest).dropWhile (· == f.kind.char) = f.rest :=
      dropWhile_replicate_append _ hhead
    rw [hcons] at htake hdrop ⊢
    rw [ofRun?, FenceKind.ofChar?_char]
    dsimp only
    rw [htake, hdrop, if_neg (by simp [marker]; omega), if_neg ?_]
    · simp [marker]
    · simpa using hb

/-- **Fence lines.**  A line is read as a fence exactly when it is this fence written, and the fence
is one that can be written. -/
theorem ofLine?_eq_some_iff {l : Line} {f : Fence} :
    ofLine? l = some f ↔ f.Proper ∧ l = f.written := by
  constructor
  · intro h
    rw [ofLine?] at h
    split_ifs at h with hi
    obtain ⟨h1, h2, h3, h4, h5⟩ := ofRun?_eq_some_iff.mp h
    refine ⟨⟨by omega, h3, h4, h5⟩, ?_⟩
    rw [written, ← h2, h1, ← eq_replicate_takeWhile, List.takeWhile_append_dropWhile]
  · rintro ⟨hp, rfl⟩
    have hhead : (f.marker ++ f.rest).head? ≠ some ' ' := by
      rw [hp.head?_marker]
      simpa using f.kind.char_ne_space
    rw [ofLine?, written, takeWhile_replicate_append _ hhead, dropWhile_replicate_append _ hhead,
      List.length_replicate, if_neg (by have := hp.indent_le; omega)]
    exact ofRun?_eq_some_iff.mpr ⟨rfl, rfl, hp.three_le, hp.head_rest, hp.backtick_notMem⟩

theorem Proper.ofLine?_written {f : Fence} (h : f.Proper) : ofLine? f.written = some f :=
  ofLine?_eq_some_iff.mpr ⟨h, rfl⟩

theorem kind_char_mem_of_ofLine? {l : Line} {f : Fence} (h : ofLine? l = some f) :
    f.kind.char ∈ l := by
  obtain ⟨hp, rfl⟩ := ofLine?_eq_some_iff.mp h
  have := hp.three_le
  have hmem : f.kind.char ∈ f.marker := List.mem_replicate.mpr ⟨by omega, rfl⟩
  simp [written, hmem]

/-- A fence line is not blank. -/
theorem allBlank_eq_false_of_ofLine? {l : Line} {f : Fence} (h : ofLine? l = some f) :
    allBlank l = false := by
  rw [allBlank, List.all_eq_false]
  exact ⟨_, kind_char_mem_of_ofLine? h, by simp [f.kind.isBlank_char]⟩

/-- A blank line is no fence line. -/
theorem ofLine?_eq_none_of_allBlank {l : Line} (h : allBlank l = true) : ofLine? l = none := by
  cases hf : ofLine? l with
  | none => rfl
  | some f => simp [allBlank_eq_false_of_ofLine? hf] at h

/-- A line that leaves the fence open. -/
def KeepsOpen (f : Fence) (l : Line) : Prop := ∀ g, ofLine? l = some g → f.closes g = false

end Fence

end Literate

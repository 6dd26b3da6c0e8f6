import Mathlib
import Literate.Text.Utf8

/-!
# Reading what was written

A character is written as one to four bytes: a lead byte that tells their number, and six bits in
each byte behind it.  The reader takes such bytes and no others, so bytes are read as a text exactly
when they are the bytes it is written as.

* `Utf8.units`: the bytes of a code point as numbers.
* `Utf8.units_of_step`, `Utf8.step_of_units`: one character, in both directions.
* `Utf8.decode_eq_ok_iff`: reading and writing.
* `Utf8.encode_injective`: a text is written in one way only.
-/

namespace Literate.Utf8

open Text

/-- The numbers that write a code point: one byte for each six bits and the lead byte. -/
def units (v : ℕ) : List ℕ :=
  if v ≤ 0x7f then [v]
  else if v ≤ 0x7ff then [v / 64 + 0xc0, v % 64 + 0x80]
  else if v ≤ 0xffff then [v / 4096 + 0xe0, v / 64 % 64 + 0x80, v % 64 + 0x80]
  else [v / 262144 + 0xf0, v / 4096 % 64 + 0x80, v / 64 % 64 + 0x80, v % 64 + 0x80]

/-- Code points are below 0x110000 and no surrogates. -/
theorem toNat_bounds (c : Char) : c.toNat < 0xd800 ∨ 0xdfff < c.toNat ∧ c.toNat < 0x110000 :=
  c.valid

theorem toNat_ofNat {v : ℕ} (h : v < 0xd800 ∨ 0xdfff < v ∧ v < 0x110000) :
    (Char.ofNat v).toNat = v := by
  have hv : v.isValidChar := h
  simp [Char.ofNat, hv, Char.ofNatAux, Char.toNat]

theorem byteList_utf8EncodeChar (c : Char) :
    byteList (String.utf8EncodeChar c) = units c.toNat := by
  have hc := toNat_bounds c
  have hval : c.val.toNat = c.toNat := rfl
  unfold byteList units String.utf8EncodeChar
  simp only [hval]
  split_ifs
  · simp; omega
  · simp; omega
  · simp; omega
  · simp; omega

theorem isContinuation_iff {b : ℕ} : isContinuation b = true ↔ 0x80 ≤ b ∧ b < 0xc0 := by
  simp [isContinuation]

theorem isSecond_iff {lead b : ℕ} :
    isSecond lead b = true ↔ (0x80 ≤ b ∧ b < 0xc0) ∧ ¬(lead = 0xe0 ∧ b < 0xa0) ∧
      ¬(lead = 0xed ∧ 0xa0 ≤ b) ∧ ¬(lead = 0xf0 ∧ b < 0x90) ∧ ¬(lead = 0xf4 ∧ 0x90 ≤ b) := by
  simp [isSecond, isContinuation]
  omega

/-! ## One character -/

/-- The byte after `taken` others may follow the lead byte. -/
def fits (lead taken b : ℕ) : Bool := if taken = 1 then isSecond lead b else isContinuation b

theorem follow_cons {lead taken b : ℕ} (h : fits lead taken b = true) (count value : ℕ)
    (rest : List ℕ) : follow lead (count + 1) taken value (b :: rest) =
      follow lead count (taken + 1) (64 * value + (b - 0x80)) rest := by
  rw [follow]
  exact if_pos h

theorem follow_inv {lead count taken value n : ℕ} {bs : List ℕ} {c : Char}
    (h : follow lead (count + 1) taken value bs = .char c n) :
    ∃ b rest, bs = b :: rest ∧ fits lead taken b = true ∧
      follow lead count (taken + 1) (64 * value + (b - 0x80)) rest = .char c n := by
  cases bs with
  | nil => simp [follow] at h
  | cons b rest =>
    rw [follow] at h
    by_cases hb : fits lead taken b = true
    · rw [fits] at hb
      simp only [hb, if_true] at h
      exact ⟨b, rest, rfl, hb, h⟩
    · rw [fits] at hb
      simp [hb] at h

theorem lengthOf_cases (a : ℕ) :
    (a < 0x80 ∧ lengthOf a = 1) ∨ (0xc2 ≤ a ∧ a < 0xe0 ∧ lengthOf a = 2) ∨
      (0xe0 ≤ a ∧ a < 0xf0 ∧ lengthOf a = 3) ∨ (0xf0 ≤ a ∧ a < 0xf5 ∧ lengthOf a = 4) ∨
      (lengthOf a = 0 ∧ (0x80 ≤ a ∧ a < 0xc2 ∨ 0xf5 ≤ a)) := by
  unfold lengthOf
  simp only [Bool.and_eq_true, decide_eq_true_eq]
  split_ifs <;> omega

/-- What is read as a character is how the character is written. -/
theorem units_of_step {a n : ℕ} {bs : List ℕ} {c : Char} (h : step a bs = .char c n) :
    ∃ more rest, bs = more ++ rest ∧ units c.toNat = a :: more ∧ n = more.length + 1 := by
  unfold step at h
  obtain ⟨ha, hl⟩ | ⟨ha, ha', hl⟩ | ⟨ha, ha', hl⟩ | ⟨ha, ha', hl⟩ | ⟨hl, -⟩ := lengthOf_cases a
  · simp only [hl, Step.char.injEq] at h
    obtain ⟨rfl, rfl⟩ := h
    refine ⟨[], bs, rfl, ?_, rfl⟩
    rw [toNat_ofNat (by omega), units, if_pos (by omega)]
  · simp only [hl] at h
    obtain ⟨b, r, rfl, hb, h⟩ := follow_inv h
    rw [fits, if_pos rfl, isSecond_iff] at hb
    simp only [follow, Step.char.injEq] at h
    obtain ⟨rfl, rfl⟩ := h
    refine ⟨[b], r, rfl, ?_, rfl⟩
    rw [toNat_ofNat (by omega), units, if_neg (by omega), if_pos (by omega)]
    simp only [List.cons.injEq, and_true]
    omega
  · simp only [hl] at h
    obtain ⟨b, r, rfl, hb, h⟩ := follow_inv h
    obtain ⟨d, s, rfl, hd, h⟩ := follow_inv h
    rw [fits, if_pos rfl, isSecond_iff] at hb
    rw [fits, if_neg (by omega), isContinuation_iff] at hd
    simp only [follow, Step.char.injEq] at h
    obtain ⟨rfl, rfl⟩ := h
    refine ⟨[b, d], s, rfl, ?_, rfl⟩
    rw [toNat_ofNat (by omega), units, if_neg (by omega), if_neg (by omega), if_pos (by omega)]
    simp only [List.cons.injEq, and_true]
    omega
  · simp only [hl] at h
    obtain ⟨b, r, rfl, hb, h⟩ := follow_inv h
    obtain ⟨d, s, rfl, hd, h⟩ := follow_inv h
    obtain ⟨e, u, rfl, he, h⟩ := follow_inv h
    rw [fits, if_pos rfl, isSecond_iff] at hb
    rw [fits, if_neg (by omega), isContinuation_iff] at hd he
    simp only [follow, Step.char.injEq] at h
    obtain ⟨rfl, rfl⟩ := h
    refine ⟨[b, d, e], u, rfl, ?_, rfl⟩
    rw [toNat_ofNat (by omega), units, if_neg (by omega), if_neg (by omega), if_neg (by omega)]
    simp only [List.cons.injEq, and_true]
    omega
  · simp [hl] at h

/-- A character is read as it is written. -/
theorem step_of_units {a : ℕ} {more : List ℕ} {c : Char} (h : units c.toNat = a :: more)
    (rest : List ℕ) : step a (more ++ rest) = .char c (more.length + 1) := by
  have hc := toNat_bounds c
  have hof : Char.ofNat c.toNat = c := Char.ofNat_toNat c
  have hlength := lengthOf_cases a
  unfold step
  rw [units] at h
  split_ifs at h with h1 h2 h3
  · cases h
    have hl : lengthOf c.toNat = 1 := by omega
    simp only [hl, hof, List.length_nil]
  · cases h
    have hl : lengthOf (c.toNat / 64 + 0xc0) = 2 := by omega
    simp only [hl, List.cons_append, List.nil_append]
    rw [follow_cons (by rw [fits, if_pos rfl, isSecond_iff]; omega), follow,
      show 64 * (c.toNat / 64 + 0xc0 - 0xc0) + (c.toNat % 64 + 0x80 - 0x80) = c.toNat by omega, hof]
    rfl
  · cases h
    have hl : lengthOf (c.toNat / 4096 + 0xe0) = 3 := by omega
    simp only [hl, List.cons_append, List.nil_append]
    rw [follow_cons (by rw [fits, if_pos rfl, isSecond_iff]; omega),
      follow_cons (by rw [fits, if_neg (by omega), isContinuation_iff]; omega), follow,
      show 64 * (64 * (c.toNat / 4096 + 0xe0 - 0xe0) + (c.toNat / 64 % 64 + 0x80 - 0x80)) +
        (c.toNat % 64 + 0x80 - 0x80) = c.toNat by omega, hof]
    rfl
  · cases h
    have hl : lengthOf (c.toNat / 262144 + 0xf0) = 4 := by omega
    simp only [hl, List.cons_append, List.nil_append]
    rw [follow_cons (by rw [fits, if_pos rfl, isSecond_iff]; omega),
      follow_cons (by rw [fits, if_neg (by omega), isContinuation_iff]; omega),
      follow_cons (by rw [fits, if_neg (by omega), isContinuation_iff]; omega), follow,
      show 64 * (64 * (64 * (c.toNat / 262144 + 0xf0 - 0xf0) +
        (c.toNat / 4096 % 64 + 0x80 - 0x80)) + (c.toNat / 64 % 64 + 0x80 - 0x80)) +
        (c.toNat % 64 + 0x80 - 0x80) = c.toNat by omega, hof]
    rfl

/-! ## All characters -/

theorem decodeFrom_skip (position : ℕ) (skipped rest : List ℕ) :
    decodeFrom position skipped.length (skipped ++ rest) =
      decodeFrom (position + skipped.length) 0 rest := by
  induction skipped generalizing position with
  | nil => rfl
  | cons b skipped ih =>
    rw [List.length_cons, List.cons_append, decodeFrom, ih]
    congr 1
    omega

/-- A text that is written is read again. -/
theorem decodeFrom_units (position : ℕ) (t : Text) :
    decodeFrom position 0 (t.flatMap fun c => units c.toNat) = .ok t := by
  induction t generalizing position with
  | nil => rfl
  | cons c t ih =>
    obtain ⟨a, more, h⟩ : ∃ a more, units c.toNat = a :: more := by
      unfold units
      split_ifs <;> exact ⟨_, _, rfl⟩
    rw [List.flatMap_cons, h, List.cons_append, decodeFrom, step_of_units h]
    simp only [Nat.add_sub_cancel]
    rw [decodeFrom_skip, ih]

/-- Bytes that are read are those that write the text. -/
theorem units_of_decodeFrom {position : ℕ} {bs : List ℕ} {t : Text}
    (h : decodeFrom position 0 bs = .ok t) : bs = t.flatMap fun c => units c.toNat := by
  -- a character takes off several bytes at once
  induction hn : bs.length using Nat.strong_induction_on generalizing position bs t with
  | _ n ih =>
    cases bs with
    | nil =>
      cases h
      rfl
    | cons a bs =>
      rw [decodeFrom] at h
      cases hstep : step a bs with
      | fault f k => simp [hstep] at h
      | char c k =>
        obtain ⟨more, rest, rfl, hunits, rfl⟩ := units_of_step hstep
        simp only [hstep, Nat.add_sub_cancel] at h
        rw [decodeFrom_skip] at h
        cases hrest : decodeFrom (position + 1 + more.length) 0 rest with
        | error e => simp [hrest] at h
        | ok u =>
          simp only [hrest, Except.ok.injEq] at h
          subst h
          have hlen : rest.length < n := by
            rw [← hn, List.length_cons, List.length_append]
            omega
          rw [List.flatMap_cons, hunits, ← ih rest.length hlen hrest rfl]
          rfl

theorem byteList_injective : Function.Injective byteList :=
  List.map_injective_iff.mpr fun _ _ h => UInt8.toNat_inj.mp h

theorem byteList_encode (t : Text) : byteList (encode t) = t.flatMap fun c => units c.toNat := by
  rw [encode, byteList, List.map_flatMap]
  exact List.flatMap_congr fun c _ => byteList_utf8EncodeChar c

/-- **Reading and writing.**  Bytes are read as a text exactly when they are how it is written. -/
theorem decode_eq_ok_iff {b : Bytes} {t : Text} : decode b = .ok t ↔ b = encode t := by
  constructor
  · intro h
    apply byteList_injective
    rw [byteList_encode]
    exact units_of_decodeFrom h
  · rintro rfl
    rw [decode, byteList_encode]
    exact decodeFrom_units 0 t

/-- A text is written in one way only. -/
theorem encode_injective : Function.Injective encode := by
  intro t u h
  have ht : decode (encode t) = .ok t := decode_eq_ok_iff.mpr rfl
  rw [h, decode_eq_ok_iff.mpr rfl] at ht
  exact (Except.ok.inj ht).symm

end Literate.Utf8

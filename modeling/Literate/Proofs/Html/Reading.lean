import Mathlib
import Literate.Html.Escape
import Literate.Html.Reading
import Literate.Proofs.Text.Join

/-!
# Reading what was escaped

Escaped text is read back as the text: no character of it can start a tag, a note or a reference,
and the references that escaping wrote stand for the characters they were written for.

* `Event.Reads`: the pieces at the front of a text, read one after the other; `Event.ofText_of_reads`
  makes them the events of the text.
* `StartTag.read_bare`, `StartTag.read_attr`: the start tags of elements without attributes and with
  one.
* `Event.Spells`: a reference that stands for a character.
* `Event.exists_reads_escape`: escaped text is read as pieces of text, which put together are the
  text, whichever way the quotation marks are spelled.
-/

namespace Literate.Html

open Text

/-! ## Names -/

/-- A word of lower-case letters, as most names of elements and attributes are. -/
def IsName (w : Text) : Prop := w ≠ [] ∧ ∀ c ∈ w, c.isLower = true

instance (w : Text) : Decidable (IsName w) :=
  decidable_of_iff (w ≠ [] ∧ w.all Char.isLower = true) (by simp [IsName])

theorem toNat_of_isLower {c : Char} (h : c.isLower = true) : 97 ≤ c.toNat ∧ c.toNat ≤ 122 := by
  simp only [Char.isLower, Bool.and_eq_true, decide_eq_true_eq, ge_iff_le,
    UInt32.le_iff_toNat_le] at h
  exact h

theorem ne_of_isLower {c d : Char} (h : c.isLower = true)
    (hd : d.toNat < 97 ∨ 122 < d.toNat) : c ≠ d := by
  rintro rfl
  have := toNat_of_isLower h
  omega

theorem isBlank_of_isLower {c : Char} (h : c.isLower = true) : isBlank c = false := by
  have := toNat_of_isLower h
  simp only [isBlank, Bool.or_eq_false_iff, Bool.and_eq_false_iff, decide_eq_false_iff_not,
    beq_eq_false_iff_ne, ne_eq]
  omega

theorem endsName_of_isLower {c : Char} (h : c.isLower = true) : StartTag.endsName c = false := by
  have hbounds := toNat_of_isLower h
  have hne : ∀ {d : Char}, d.toNat < 97 ∨ 122 < d.toNat → c ≠ d := ne_of_isLower h
  simp only [StartTag.endsName, Bool.or_eq_false_iff, decide_eq_false_iff_not]
  refine ⟨⟨⟨⟨⟨⟨⟨hne ?_, hne ?_⟩, hne ?_⟩, ?_⟩, hne ?_⟩, hne ?_⟩, hne ?_⟩, hne ?_⟩
  all_goals first | decide | omega

theorem admitsName_of_isLower {c : Char} (h : c.isLower = true) :
    StartTag.admitsName c = false := by
  have hne : ∀ {d : Char}, d.toNat < 97 → c ≠ d := fun hd => ne_of_isLower h (.inl hd)
  have hsingle : c ≠ '\'' := hne (by decide)
  have hdouble : c ≠ '"' := hne (by decide)
  have hslash : c ≠ '/' := hne (by decide)
  simp [StartTag.admitsName, isBlank_of_isLower h, hsingle, hdouble, hslash]

theorem isAlpha_of_isLower {c : Char} (h : c.isLower = true) : c.isAlpha = true := by
  simp [Char.isAlpha, h]

theorem lower_of_isLower {w : Text} (h : ∀ c ∈ w, c.isLower = true) : lower w = w := by
  have hfrom : ∀ (before w : Text), (∀ c ∈ w, c.isLower = true) → lowerFrom before w = w := by
    intro before w
    induction w generalizing before with
    | nil => exact fun _ => rfl
    | cons c w ih =>
      intro h
      have hc := h c (by simp)
      have hbounds := toNat_of_isLower hc
      have hsame : c.toLower = c :=
        Char.toLower_eq_of_not_isUpper (Char.not_isUpper_of_isLower hc)
      rw [lowerFrom, ih _ fun d hd => h d (by simp [hd])]
      simp only [lowerChar, hsame]
      rw [if_neg (by omega), if_neg (by omega), if_pos (by omega)]
  exact hfrom [] w h

/-! ## Start tags -/

theorem takeWhile_append_cons {p : Char → Bool} {a : Text} (h : ∀ c ∈ a, p c = true) {d : Char}
    (hd : p d = false) (rest : Text) : (a ++ d :: rest).takeWhile p = a := by
  rw [List.takeWhile_append_of_pos h, List.takeWhile_cons_of_neg (by simp [hd]), List.append_nil]

namespace StartTag

variable {name key value : Text}

theorem admits_last (hname : IsName name) :
    ((name.getLast?.map admitsName).getD false) = false := by
  obtain ⟨c, hc⟩ := Option.ne_none_iff_exists'.mp (mt List.getLast?_eq_none_iff.mp hname.1)
  rw [hc]
  exact admitsName_of_isLower (hname.2 c (List.mem_of_getLast? hc))

theorem skipGap_space (t : Text) : skipGap (' ' :: t) = skipGap t := by
  rw [skipGap.eq_def]
  simp [show isBlank ' ' = true by decide]

theorem skipGap_letter {c : Char} (hc : c.isLower = true) (t : Text) :
    skipGap (c :: t) = c :: t := by
  have hslash : c ≠ '/' := ne_of_isLower hc (by decide)
  rw [skipGap.eq_def]
  split
  · cases ‹c :: t = []›
  · exact absurd (List.cons.inj ‹c :: t = _›).1 hslash
  · obtain ⟨rfl, rfl⟩ := List.cons.inj ‹c :: t = _›
    simp [isBlank_of_isLower hc, hslash]

theorem attributes_end (n : ℕ) (admitted : Bool) (rest : Text) :
    attributes (n + 1) admitted ('>' :: rest) = ([], '>' :: rest) := by
  have hstart : skipGap ('>' :: rest) = '>' :: rest := by
    unfold skipGap
    simp [show isBlank '>' = false by decide]
  simp [attributes, hstart]

/-- The start tag of an element without attributes. -/
theorem read_bare (hname : IsName name) (rest : Text) :
    read ('<' :: (name ++ '>' :: rest)) = .tag ⟨name, [], false⟩ rest := by
  have hwhole : (name ++ '>' :: rest).takeWhile (!endsName ·) = name :=
    takeWhile_append_cons (fun c hc => by simp [endsName_of_isLower (hname.2 c hc)]) rfl rest
  have hdrop : ('<' :: (name ++ '>' :: rest)).drop (name.length + 1) = '>' :: rest := by simp
  unfold read
  simp only [List.drop_succ_cons, List.drop_zero, hwhole, List.length_cons, List.drop_left,
    attributes_end, lower_of_isLower hname.2]

theorem value?_quoted (hvalue : '"' ∉ value) (rest : Text) :
    value? ('=' :: '"' :: (value ++ '"' :: rest)) = some (value, rest) := by
  have hcut := cut_append hvalue rest
  unfold value?
  simp [show isBlank '=' = false by decide, show isBlank '"' = false by decide, quotedValue?, hcut]

/-- The start tag of an element with one attribute. -/
theorem read_attr (hname : IsName name) (hkey : IsName key) (hvalue : '"' ∉ value) (rest : Text) :
    read ('<' :: (name ++ ' ' :: (key ++ '=' :: '"' :: (value ++ '"' :: '>' :: rest)))) =
      .tag ⟨name, [(key, CharRef.unescape value)], false⟩ rest := by
  have hwhole : ∀ t : Text, (name ++ ' ' :: t).takeWhile (!endsName ·) = name :=
    takeWhile_append_cons (fun c hc => by simp [endsName_of_isLower (hname.2 c hc)]) rfl
  have hattributes : ∀ n, attributes (n + 2) false
      (' ' :: (key ++ '=' :: '"' :: (value ++ '"' :: '>' :: rest))) =
        ([(key, CharRef.unescape value)], '>' :: rest) := by
    intro n
    obtain ⟨k, ks, rfl⟩ := List.exists_cons_of_ne_nil hkey.1
    have hk := hkey.2 k (by simp)
    have hslash : k ≠ '/' := ne_of_isLower hk (by decide)
    have hclose : k ≠ '>' := ne_of_isLower hk (by decide)
    have hskip : ∀ t : Text, skipGap (' ' :: k :: t) = k :: t :=
      fun t => by rw [skipGap_space, skipGap_letter hk]
    have htake : ∀ t : Text, (ks ++ '=' :: t).takeWhile
        (fun d => !(isBlank d || d = '/' || d = '=' || d = '>')) = ks := by
      refine takeWhile_append_cons (fun c hc => ?_) (by simp)
      have hc := hkey.2 c (by simp [hc])
      have hne : ∀ {d : Char}, d.toNat < 97 → c ≠ d := fun hd => ne_of_isLower hc (.inl hd)
      have hslash : c ≠ '/' := hne (by decide)
      have hequals : c ≠ '=' := hne (by decide)
      have hclose : c ≠ '>' := hne (by decide)
      simp [isBlank_of_isLower hc, hslash, hequals, hclose]
    rw [attributes]
    simp only [List.cons_append, hskip, htake, List.length_cons, hslash, hclose, decide_false,
      Bool.or_self, Bool.not_false, Bool.and_true, Bool.false_or]
    rw [if_pos (by simp)]
    simp only [Nat.add_sub_cancel, List.drop_left, value?_quoted hvalue, attributes_end]
    rw [lower_of_isLower hkey.2]
  unfold read
  simp only [List.drop_succ_cons, List.drop_zero, hwhole, admits_last hname, List.drop_left]
  rw [show ('<' :: (name ++ ' ' :: (key ++ '=' :: '"' :: (value ++ '"' :: '>' :: rest)))).length =
    (name.length + key.length + value.length + rest.length + 4) + 2 by simp; omega, hattributes]
  simp only [lower_of_isLower hname.2]

end StartTag

/-! ## Pieces -/

namespace Event

/-- The pieces at the front of a text, read one after the other as events, and what follows them. -/
inductive Reads : Text → List Event → Text → Prop
  | nil (t : Text) : Reads t [] t
  | cons {t rest u : Text} {events more : List Event}
    (hstep : step false none t = .next events rest none) (hrest : rest.length < t.length)
    (h : Reads rest more u) : Reads t (events ++ more) u

theorem Reads.trans {t u v : Text} {a b : List Event} (h : Reads t a u) (h' : Reads u b v) :
    Reads t (a ++ b) v := by
  induction h with
  | nil => exact h'
  | cons hstep hrest _ ih =>
    rw [List.append_assoc]
    exact .cons hstep hrest (ih h')

theorem Reads.piece {t rest : Text} {events : List Event}
    (hstep : step false none t = .next events rest none) (hrest : rest.length < t.length) :
    Reads t events rest := by
  have h := Reads.cons hstep hrest (.nil rest)
  rwa [List.append_nil] at h

theorem readPieces_of_reads {t : Text} {events : List Event} (h : Reads t events []) {fuel : ℕ}
    (hfuel : t.length < fuel) : readPieces false fuel none t = .ok ⟨events, [], none⟩ := by
  generalize hend : ([] : Text) = u at h
  induction h generalizing fuel with
  | nil t =>
    subst hend
    obtain ⟨n, rfl⟩ : ∃ n, fuel = n + 1 := ⟨fuel - 1, by omega⟩
    rfl
  | @cons t rest u events more hstep hrest _ ih =>
    obtain ⟨n, rfl⟩ : ∃ n, fuel = n + 1 := ⟨fuel - 1, by omega⟩
    have hne : t.isEmpty = false := by
      cases t with
      | nil => simp at hrest
      | cons => rfl
    rw [readPieces, hne, hstep]
    simp only [Bool.false_eq_true, if_false]
    rw [ih (by omega) hend]

/-- **The events of a text** that is read to its end. -/
theorem ofText_of_reads {t : Text} {events : List Event} (h : Reads t events []) :
    ofText t = .ok events := by
  rw [ofText, readPieces_of_reads h (Nat.lt_succ_self _)]
  simp [readPieces, ofPlain]

/-! ### Tags -/

variable {name key value : Text}

theorem markupStep_letter {c : Char} (hc : c.isLower = true) (r : Text) :
    markupStep false ('<' :: c :: r) = startStep false ('<' :: c :: r) := by
  have hne : ∀ {d : Char}, d.toNat < 97 → c ≠ d := fun hd => ne_of_isLower hc (.inl hd)
  unfold markupStep
  split
  next heq => cases heq; exact absurd rfl (hne (by decide))
  next heq => cases heq; exact absurd rfl (hne (by decide))
  next heq => cases heq; exact absurd rfl (hne (by decide))
  next heq => cases heq; exact absurd rfl (hne (by decide))
  next heq => cases heq; exact absurd rfl (hne (by decide))
  next heq =>
    cases heq
    rw [if_pos (isAlpha_of_isLower hc)]
  next hother => exact absurd rfl (hother c r)

theorem step_start {t rest : Text} {attrs : Attributes} (hname : IsName name)
    (hraw : isRaw name = false)
    (hread : StartTag.read ('<' :: (name ++ t)) = .tag ⟨name, attrs, false⟩ rest) :
    step false none ('<' :: (name ++ t)) = .next [.start ⟨name, attrs, false⟩] rest none := by
  obtain ⟨c, cs, rfl⟩ := List.exists_cons_of_ne_nil hname.1
  show markupStep false ('<' :: c :: (cs ++ t)) = _
  rw [markupStep_letter (hname.2 c (by simp)), startStep, ← List.cons_append, hread]
  simp [hraw]

/-- The start tag of an element without attributes. -/
theorem reads_bare (hname : IsName name) (hraw : isRaw name = false) (rest : Text) :
    Reads ('<' :: (name ++ '>' :: rest)) [.start ⟨name, [], false⟩] rest :=
  .piece (step_start hname hraw (StartTag.read_bare hname rest)) (by simp; omega)

/-- The start tag of an element with one attribute. -/
theorem reads_attr (hname : IsName name) (hraw : isRaw name = false) (hkey : IsName key)
    (hvalue : '"' ∉ value) (rest : Text) :
    Reads ('<' :: (name ++ ' ' :: (key ++ '=' :: '"' :: (value ++ '"' :: '>' :: rest))))
      [.start ⟨name, [(key, CharRef.unescape value)], false⟩] rest :=
  .piece (step_start hname hraw (StartTag.read_attr hname hkey hvalue rest)) (by simp; omega)

/-- An end tag. -/
theorem reads_stop (hname : IsName name) (rest : Text) :
    Reads ('<' :: '/' :: (name ++ '>' :: rest)) [.stop name] rest := by
  have hclose : '>' ∉ name := fun h => ne_of_isLower (hname.2 _ h) (by decide) rfl
  obtain ⟨c, cs, rfl⟩ := List.exists_cons_of_ne_nil hname.1
  have hc := hname.2 c (by simp)
  have hname' : (c :: cs).takeWhile isEndNameChar = c :: cs := by
    rw [List.takeWhile_eq_self_iff]
    intro d hd
    simp [isEndNameChar, Char.isAlphanum, isAlpha_of_isLower (hname.2 d hd)]
  refine .piece ?_ (by simp; omega)
  show stopStep false ('<' :: '/' :: ((c :: cs) ++ '>' :: rest)) = _
  rw [stopStep, List.drop_succ_cons, List.drop_succ_cons, List.drop_zero, cut_append hclose]
  simp only [List.dropWhile_cons_of_neg (show ¬ isBlank c = true by simp [isBlank_of_isLower hc]),
    hname', List.drop_length, lower_of_isLower hname.2]
  simp [isAlpha_of_isLower hc, allBlank]

/-! ### Text -/

/-- Text without the two characters that start markup. -/
theorem reads_text {plain rest : Text} (hne : plain ≠ [])
    (hplain : ∀ c ∈ plain, c ≠ '<' ∧ c ≠ '&') (hrest : ∀ c ∈ rest.head?, c = '<' ∨ c = '&') :
    Reads (plain ++ rest) [.text plain] rest := by
  have htake : (plain ++ rest).takeWhile (fun c => !(c = '<' || c = '&')) = plain := by
    have hall : ∀ c ∈ plain, (!(c = '<' || c = '&') : Bool) = true := by
      intro c hc
      simpa using hplain c hc
    cases rest with
    | nil => rw [List.append_nil, List.takeWhile_eq_self_iff]; exact hall
    | cons d rest => exact takeWhile_append_cons hall (by
      rcases hrest d rfl with rfl | rfl <;> rfl) rest
  obtain ⟨c, cs, rfl⟩ := List.exists_cons_of_ne_nil hne
  obtain ⟨hopen, hamp⟩ := hplain c (by simp)
  refine .piece ?_ (by simp)
  have hstep : step false none (c :: (cs ++ rest)) =
      .next [.text ((c :: (cs ++ rest)).takeWhile fun c => !(c = '<' || c = '&'))]
        ((c :: (cs ++ rest)).drop
          ((c :: (cs ++ rest)).takeWhile fun c => !(c = '<' || c = '&')).length) none := by
    unfold step
    split
    · cases ‹none = some _›
    · split
      · exact absurd (List.cons.inj ‹c :: (cs ++ rest) = _›).1 hopen
      · exact absurd (List.cons.inj ‹c :: (cs ++ rest) = _›).1 hamp
      · rfl
  rw [List.cons_append] at htake ⊢
  rw [hstep, htake]
  simp

/-- Text without markup, of which there may be none. -/
theorem exists_reads_plain {plain rest : Text} (hplain : ∀ c ∈ plain, c ≠ '<' ∧ c ≠ '&')
    (hrest : ∀ c ∈ rest.head?, c = '<' ∨ c = '&') :
    ∃ ts : List Text, ts.flatten = plain ∧ Reads (plain ++ rest) (ts.map .text) rest := by
  by_cases hne : plain = []
  · subst hne
    exact ⟨[], rfl, .nil rest⟩
  · exact ⟨[plain], List.append_nil _, reads_text hne hplain hrest⟩

/-- A reference that stands for a character, whatever follows it. -/
def Spells (s : Text) (c : Char) : Prop :=
  s.head? = some '&' ∧ ∀ rest, step false none (s ++ rest) = .next [.text [c]] rest none

theorem Spells.reads {s : Text} {c : Char} (h : Spells s c) (rest : Text) :
    Reads (s ++ rest) [.text [c]] rest := by
  refine .piece (h.2 rest) ?_
  cases s with
  | nil => cases h.1
  | cons => simp

theorem spells_amp : Spells ['&', 'a', 'm', 'p', ';'] '&' := ⟨rfl, fun _ => rfl⟩

theorem spells_lt : Spells ['&', 'l', 't', ';'] '<' := ⟨rfl, fun _ => rfl⟩

theorem spells_gt : Spells ['&', 'g', 't', ';'] '>' := ⟨rfl, fun _ => rfl⟩

theorem spells_quot : Spells ['&', 'q', 'u', 'o', 't', ';'] '"' := ⟨rfl, fun _ => rfl⟩

theorem spells_apostrophe : Spells ['&', '#', 'x', '2', '7', ';'] '\'' := ⟨rfl, fun _ => rfl⟩

/-- A quotation mark is written as it is or as a reference. -/
def SpellsQuote (s : Text) (c : Char) : Prop := s = [c] ∨ Spells s c

section

variable {double single : Text} (hdouble : SpellsQuote double '"')
  (hsingle : SpellsQuote single '\'')
include hdouble hsingle

/-- A character is escaped as itself or as a reference. -/
theorem escapeChar_cases (c : Char) :
    escapeChar double single c = [c] ∧ c ≠ '<' ∧ c ≠ '&' ∨
      Spells (escapeChar double single c) c := by
  unfold escapeChar
  split_ifs with hamp hlt hgt hd hs
  · exact .inr (hamp ▸ spells_amp)
  · exact .inr (hlt ▸ spells_lt)
  · exact .inr (hgt ▸ spells_gt)
  · subst hd
    rcases hdouble with h | h
    · exact .inl ⟨h, hlt, hamp⟩
    · exact .inr h
  · subst hs
    rcases hsingle with h | h
    · exact .inl ⟨h, hlt, hamp⟩
    · exact .inr h
  · exact .inl ⟨rfl, hlt, hamp⟩

/-- Text without markup and escaped text after it. -/
theorem exists_reads_plain_escape {rest : Text} (hrest : ∀ c ∈ rest.head?, c = '<') (t : Text) :
    ∀ plain : Text, (∀ c ∈ plain, c ≠ '<' ∧ c ≠ '&') →
      ∃ ts : List Text, ts.flatten = plain ++ t ∧
        Reads (plain ++ (escapeWith double single t ++ rest)) (ts.map .text) rest := by
  induction t with
  | nil =>
    intro plain hplain
    rw [List.append_nil]
    exact exists_reads_plain hplain fun c hc => .inl (hrest c hc)
  | cons c t ih =>
    intro plain hplain
    have hcons : escapeWith double single (c :: t) ++ rest =
        escapeChar double single c ++ (escapeWith double single t ++ rest) := by
      rw [escapeWith, List.flatMap_cons, List.append_assoc, escapeWith]
    rw [hcons]
    rcases escapeChar_cases hdouble hsingle c with ⟨hself, hc⟩ | hspells
    · -- the character goes on with the text before it
      have hplain' : ∀ d ∈ plain ++ [c], d ≠ '<' ∧ d ≠ '&' := by
        intro d hd
        rcases List.mem_append.mp hd with hd | hd
        · exact hplain d hd
        · exact List.mem_singleton.mp hd ▸ hc
      obtain ⟨ts, hts, hreads⟩ := ih _ hplain'
      rw [List.append_assoc, List.singleton_append] at hts hreads
      exact ⟨ts, hts, by rwa [hself]⟩
    · -- a reference ends the text before it
      obtain ⟨ts, hts, hreads⟩ := ih [] (by simp)
      have hhead : ∀ d ∈ (escapeChar double single c ++
          (escapeWith double single t ++ rest)).head?, d = '<' ∨ d = '&' := by
        intro d hd
        rw [List.head?_append, hspells.1] at hd
        exact .inr (Option.some.inj hd).symm
      obtain ⟨us, hus, hbefore⟩ := exists_reads_plain hplain hhead
      refine ⟨us ++ [c] :: ts, by rw [List.flatten_append, List.flatten_cons, hus, hts]; rfl, ?_⟩
      rw [List.map_append]
      exact hbefore.trans ((hspells.reads _).trans hreads)

/-- **Escaped text is read back.**  The pieces are text, and put together they are the text that was
escaped. -/
theorem exists_reads_escape (t : Text) {rest : Text} (hrest : ∀ c ∈ rest.head?, c = '<') :
    ∃ ts : List Text, ts.flatten = t ∧
      Reads (escapeWith double single t ++ rest) (ts.map .text) rest :=
  exists_reads_plain_escape hdouble hsingle hrest t [] (by simp)

end

end Event

end Literate.Html

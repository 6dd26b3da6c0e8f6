import Mathlib
import Literate.Marker
import Literate.Text.Digit
import Literate.Text.Lines

/-!
# Texts with the two symbols exchanged

The symbols of the two targets are the only characters that tell the targets apart.  Here every `%`
of a text becomes `&` and every `&` becomes `%`, and the operations on texts are shown to commute
with that: none of them looks for either symbol.

* `Text.exchange`: the text with the two symbols exchanged.
* `Text.Blind`: a test that gives one answer for both symbols; `Text.Blind.exchangeChar` says that it
  gives one answer for a character and its counterpart.
* `Text.search_exchange`: a search commutes with the exchange when what it looks for does.
* `Text.lines_exchange`: the lines of the text are the lines of before, each exchanged.
-/

namespace Literate

/-- The target that a target is not. -/
def Target.other : Target → Target
  | doc => slides
  | slides => doc

@[simp] theorem Target.other_other (t : Target) : t.other.other = t := by cases t <;> rfl

namespace Text

/-! ## Characters -/

/-- The counterpart of a character: the symbol of the other target, or the character itself. -/
def exchangeChar (c : Char) : Char := if c = '%' then '&' else if c = '&' then '%' else c

theorem exchangeChar_symbol (t : Target) : exchangeChar t.symbol = t.other.symbol := by
  cases t <;> decide

@[simp] theorem exchangeChar_exchangeChar (c : Char) : exchangeChar (exchangeChar c) = c := by
  unfold exchangeChar
  by_cases hdoc : c = '%'
  · subst hdoc
    decide
  · by_cases hslides : c = '&'
    · subst hslides
      decide
    · simp only [hdoc, hslides, if_false]

theorem exchangeChar_injective : Function.Injective exchangeChar :=
  Function.LeftInverse.injective exchangeChar_exchangeChar

/-- Only a character that is its own counterpart has it as its counterpart. -/
theorem exchangeChar_eq_iff {x : Char} (hx : exchangeChar x = x) {c : Char} :
    exchangeChar c = x ↔ c = x := by
  conv_lhs => rw [← hx]
  exact exchangeChar_injective.eq_iff

/-- A test that does not tell the two symbols apart. -/
def Blind (p : Char → Bool) : Prop := p '%' = p '&'

namespace Blind

variable {p q : Char → Bool}

/-- A blind test does not tell a character from its counterpart. -/
theorem exchangeChar (hp : Blind p) (c : Char) : p (exchangeChar c) = p c := by
  unfold Text.exchangeChar
  split_ifs with hdoc hslides
  · rw [hdoc, hp]
  · rw [hslides, hp]
  · rfl

theorem comp_exchangeChar (hp : Blind p) : p ∘ Text.exchangeChar = p := funext hp.exchangeChar

theorem not (hp : Blind p) : Blind (fun c => !p c) := congrArg Bool.not hp

/-- The test for a character other than the two symbols. -/
theorem beq {x : Char} (hx : Text.exchangeChar x = x) : Blind (· == x) := by
  show ('%' == x) = (Text.exchangeChar '%' == x)
  rw [Bool.eq_iff_iff, beq_iff_eq, beq_iff_eq, exchangeChar_eq_iff hx]

end Blind

theorem blind_isBlank : Blind isBlank := rfl

theorem blind_isGap : Blind isGap := rfl

theorem blind_isDigit : Blind isDigit := rfl

/-! ## Texts -/

/-- The text with the two symbols exchanged. -/
def exchange (t : Text) : Text := t.map exchangeChar

section

variable (t u : Text)

@[simp] theorem exchange_nil : exchange [] = [] := rfl

@[simp] theorem exchange_cons (c : Char) : exchange (c :: t) = exchangeChar c :: exchange t := rfl

@[simp] theorem exchange_exchange : exchange (exchange t) = t := by
  simp [exchange, Function.comp_def]

@[simp] theorem exchange_append : exchange (t ++ u) = exchange t ++ exchange u := List.map_append

@[simp] theorem exchange_reverse : exchange t.reverse = (exchange t).reverse := List.map_reverse

@[simp] theorem length_exchange : (exchange t).length = t.length := List.length_map _

@[simp] theorem isEmpty_exchange : (exchange t).isEmpty = t.isEmpty := List.isEmpty_map

theorem exchange_replicate {c : Char} (hc : exchangeChar c = c) (n : ℕ) :
    exchange (List.replicate n c) = List.replicate n c := by simp [exchange, hc]

theorem head?_exchange_beq {x : Char} (hx : exchangeChar x = x) :
    ((exchange t).head? == some x) = (t.head? == some x) := by
  cases t with
  | nil => rfl
  | cons c t =>
    rw [Bool.eq_iff_iff]
    simp [exchangeChar_eq_iff hx]

theorem getD_exchange (t? : Option Text) :
    (t?.map exchange).getD [] = exchange (t?.getD []) := by cases t? <;> rfl

end

theorem exchange_injective : Function.Injective exchange :=
  Function.LeftInverse.injective exchange_exchange

/-- Only a text without the two symbols has itself as its counterpart. -/
theorem exchange_eq_iff {x : Text} (hx : exchange x = x) {t : Text} : exchange t = x ↔ t = x := by
  conv_lhs => rw [← hx]
  exact exchange_injective.eq_iff

section

variable {p : Char → Bool} (hp : Blind p) (t : Text)
include hp

theorem takeWhile_exchange : (exchange t).takeWhile p = exchange (t.takeWhile p) := by
  rw [exchange, List.takeWhile_map, hp.comp_exchangeChar, exchange]

theorem dropWhile_exchange : (exchange t).dropWhile p = exchange (t.dropWhile p) := by
  rw [exchange, List.dropWhile_map, hp.comp_exchangeChar, exchange]

theorem all_exchange : (exchange t).all p = t.all p := by
  rw [exchange, List.all_map, hp.comp_exchangeChar]

theorem dropEndWhile_exchange : dropEndWhile p (exchange t) = exchange (dropEndWhile p t) := by
  induction t with
  | nil => rfl
  | cons c t ih =>
    rw [exchange_cons, dropEndWhile, dropEndWhile, ih]
    cases dropEndWhile p t with
    | nil =>
      simp only [exchange_nil, hp.exchangeChar]
      split_ifs <;> rfl
    | cons d s => rfl

end

section

variable (t : Text)

theorem allBlank_exchange : allBlank (exchange t) = allBlank t := all_exchange blind_isBlank t

theorem trimStart_exchange : trimStart (exchange t) = exchange (trimStart t) :=
  dropWhile_exchange blind_isBlank t

theorem trimEnd_exchange : trimEnd (exchange t) = exchange (trimEnd t) :=
  dropEndWhile_exchange blind_isBlank t

theorem trim_exchange : trim (exchange t) = exchange (trim t) := by
  rw [trim, trimEnd_exchange, trimStart_exchange, trim]

theorem words_exchange : words (exchange t) = (words t).map exchange := by
  induction t with
  | nil => rfl
  | cons c t ih =>
    rw [exchange_cons, words.eq_def, words.eq_def (c :: t)]
    simp only [blind_isBlank.exchangeChar, ih]
    cases t with
    | nil => split_ifs <;> rfl
    | cons d r =>
      simp only [exchange_cons, blind_isBlank.exchangeChar]
      split_ifs
      · rfl
      · rfl
      · cases words (d :: r) <;> rfl

end

/-! ## Cutting and searching -/

section

variable {sep : Char} (hsep : exchangeChar sep = sep) (t : Text)
include hsep

theorem pieces_exchange : pieces sep (exchange t) = (pieces sep t).map exchange := by
  induction t with
  | nil => rfl
  | cons c t ih =>
    rw [exchange_cons, pieces, pieces, ih]
    simp only [exchangeChar_eq_iff hsep]
    split_ifs
    · rfl
    · cases pieces sep t <;> rfl

theorem cut_exchange :
    cut sep (exchange t) = (exchange (cut sep t).1, (cut sep t).2.map exchange) := by
  induction t with
  | nil => rfl
  | cons c t ih =>
    rw [exchange_cons, cut, cut, ih]
    simp only [exchangeChar_eq_iff hsep]
    split_ifs <;> rfl

end

theorem afterPrefix?_exchange {start : Text} (hstart : exchange start = start) (t : Text) :
    afterPrefix? start (exchange t) = (afterPrefix? start t).map exchange := by
  induction start generalizing t with
  | nil => rfl
  | cons s start ih =>
    obtain ⟨hs, hrest⟩ := List.cons.inj hstart
    cases t with
    | nil => rfl
    | cons c t =>
      rw [exchange_cons, afterPrefix?, afterPrefix?, ih hrest]
      simp only [eq_comm (a := s), exchangeChar_eq_iff hs]
      split_ifs <;> rfl

/-- A search finds the counterpart of what it finds in the counterpart of the text. -/
theorem search_exchange {α : Type} {m : Text → Option (α × Text)} {f : α → α}
    (hm : ∀ s, m (exchange s) = (m s).map (Prod.map f exchange)) (t : Text) :
    search m (exchange t) = (search m t).map (Prod.map exchange (Prod.map f exchange)) := by
  induction t with
  | nil =>
    have hnil := hm []
    rw [exchange_nil] at hnil ⊢
    rw [search]
    cases hfound : m [] with
    | none => rfl
    | some found =>
      rw [hfound, Option.map_some, Option.some.injEq] at hnil
      rw [Option.map_some, Prod.map_apply, exchange_nil, ← hnil]
  | cons c t ih =>
    have hcons := hm (c :: t)
    rw [exchange_cons] at hcons ⊢
    rw [search, search, hcons, ih]
    cases m (c :: t) with
    | some found => rfl
    | none => cases search m t <;> rfl

theorem occursIn_exchange {part : Text} (hpart : exchange part = part) (t : Text) :
    occursIn part (exchange t) = occursIn part t := by
  have hm : ∀ s, ((afterPrefix? part (exchange s)).map fun after => ((), after)) =
      ((afterPrefix? part s).map fun after => ((), after)).map (Prod.map id exchange) := by
    intro s
    rw [afterPrefix?_exchange hpart]
    cases afterPrefix? part s <;> rfl
  rw [occursIn, search_exchange hm, Option.isSome_map, occursIn]

theorem join_exchange {sep : Text} (hsep : exchange sep = sep) (ts : List Text) :
    join sep (ts.map exchange) = exchange (join sep ts) := by
  induction ts with
  | nil => rfl
  | cons t ts ih =>
    cases ts with
    | nil => simp [join]
    | cons u ts =>
      simp only [List.map_cons, join, List.intercalate_cons_cons] at ih ⊢
      rw [ih]
      simp [hsep]

/-! ## Lines -/

theorem withEnds_exchange (t : Text) : withEnds (exchange t) = (withEnds t).map exchange := by
  induction t with
  | nil => rfl
  | cons c t ih =>
    rw [exchange_cons, withEnds, withEnds, ih]
    simp only [exchangeChar_eq_iff (show exchangeChar '\n' = '\n' by decide)]
    split_ifs
    · rfl
    · cases withEnds t <;> rfl

theorem dropLast?_exchange {c : Char} (hc : exchangeChar c = c) (t : Text) :
    dropLast? c (exchange t) = exchange (dropLast? c t) := by
  induction t with
  | nil => rfl
  | cons d t ih =>
    cases t with
    | nil =>
      simp only [exchange_cons, exchange_nil, dropLast?, exchangeChar_eq_iff hc]
      split_ifs <;> rfl
    | cons e t =>
      simp only [exchange_cons, dropLast?] at ih ⊢
      rw [ih]

theorem content_exchange (l : Text) : content (exchange l) = exchange (content l) := by
  rw [content, dropLast?_exchange (by decide), dropLast?_exchange (by decide), content]

/-- The lines of a text are those of its counterpart, each exchanged. -/
theorem lines_exchange (t : Text) : lines (exchange t) = (lines t).map exchange := by
  simp only [lines, withEnds_exchange, List.map_map]
  exact List.map_congr_left fun l _ => content_exchange l

end Text

end Literate

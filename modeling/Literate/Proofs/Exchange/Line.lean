import Mathlib
import Literate.Outline.LineKind
import Literate.Info
import Literate.Proofs.Exchange.Text
import Literate.Proofs.Fence
import Literate.Proofs.Marker

/-!
# Lines with the two symbols exchanged

What a line is does not depend on which of the two symbols it holds, and its markers are those of
before for the other target.

* `LineKind.headingTitle?_exchange`, `LineKind.isBreak_exchange`, `LineKind.isItem_exchange`: the kind
  of the line is the same.
* `Fence.ofLine?_exchange`: the fence is the same, with the rest of its line exchanged.
* `Marker.find_exchange`, `Marker.strip_exchange`, `Marker.has_exchange`: each marker excludes from
  the other target.
* `Info.parse_exchange`: the info string says the same with exchanged texts, and of the other target.
-/

namespace Literate

open Text

/-! ## Kinds of line -/

namespace LineKind

variable (l : Line)

theorem unindented?_exchange : unindented? (exchange l) = (unindented? l).map exchange := by
  have hspace : Blind (· == ' ') := .beq (by decide)
  simp only [unindented?, takeWhile_exchange hspace, dropWhile_exchange hspace, length_exchange]
  split_ifs <;> rfl

theorem isGaps_exchange (t : Text) : isGaps (exchange t) = isGaps t := all_exchange blind_isGap t

theorem endsOrGap_exchange (t : Text) : endsOrGap (exchange t) = endsOrGap t := by
  cases t with
  | nil => rfl
  | cons c t => exact blind_isGap.exchangeChar c

theorem dropClosing_exchange (t : Text) : dropClosing (exchange t) = exchange (dropClosing t) := by
  have hsharp : Blind (· == '#') := .beq (by decide)
  have hlast : ∀ u : Text, (exchange u).getLast? = u.getLast?.map exchangeChar :=
    fun _ => List.getLast?_map
  simp only [dropClosing, dropEndWhile_exchange blind_isGap, dropEndWhile_exchange hsharp,
    length_exchange, hlast]
  split_ifs
  · rfl
  · cases (dropEndWhile (· == '#') (dropEndWhile isGap t)).getLast? with
    | none => rfl
    | some c =>
      simp only [Option.map_some, blind_isGap.exchangeChar]
      split_ifs <;> rfl

/-- What a line shows after its indentation begins with a character other than the two symbols
exactly when its counterpart does. -/
theorem cases_unindented? {x : Char} (hx : exchangeChar x = x) :
    (∃ r, unindented? l = some (x :: r) ∧ unindented? (exchange l) = some (x :: exchange r)) ∨
      (∀ r, unindented? l ≠ some (x :: r)) ∧ ∀ r, unindented? (exchange l) ≠ some (x :: r) := by
  rw [unindented?_exchange]
  cases unindented? l with
  | none => exact .inr ⟨nofun, nofun⟩
  | some u =>
    cases u with
    | nil => exact .inr ⟨nofun, nofun⟩
    | cons c r =>
      by_cases hc : c = x
      · subst hc
        exact .inl ⟨r, rfl, by rw [Option.map_some, exchange_cons, hx]⟩
      · refine .inr ⟨fun s h => ?_, fun s h => ?_⟩
        · rw [Option.some.injEq, List.cons.injEq] at h
          exact hc h.1
        · rw [Option.map_some, exchange_cons, Option.some.injEq, List.cons.injEq,
            exchangeChar_eq_iff hx] at h
          exact hc h.1

theorem headingTitle?_exchange : headingTitle? (exchange l) = (headingTitle? l).map exchange := by
  unfold headingTitle?
  rcases cases_unindented? l (show exchangeChar '#' = '#' by decide) with ⟨r, hl, hl'⟩ | ⟨hl, hl'⟩
  · rw [hl, hl']
    simp only [endsOrGap_exchange, dropWhile_exchange blind_isGap, dropEndWhile_exchange blind_isGap,
      dropClosing_exchange, trim_exchange]
    split_ifs <;> rfl
  · split
    · exact absurd ‹_› (hl' _)
    · rfl

theorem isQuote_exchange : isQuote (exchange l) = isQuote l := by
  unfold isQuote
  rcases cases_unindented? l (show exchangeChar '>' = '>' by decide) with ⟨r, hl, hl'⟩ | ⟨hl, hl'⟩
  · rw [hl, hl']
    rfl
  · split
    · exact absurd ‹_› (hl' _)
    · rfl

theorem isHeading_exchange : isHeading (exchange l) = isHeading l := by
  have hsharp : Blind (· == '#') := .beq (by decide)
  rw [isHeading, isHeading, unindented?_exchange]
  cases unindented? l with
  | none => rfl
  | some r =>
    simp only [Option.map_some, takeWhile_exchange hsharp, dropWhile_exchange hsharp,
      length_exchange, endsOrGap_exchange]

theorem isRunOf_exchange {x : Char} (hx : exchangeChar x = x) :
    isRunOf x (exchange l) = isRunOf x l := by
  rw [isRunOf, isRunOf, unindented?_exchange]
  cases unindented? l with
  | none => rfl
  | some r =>
    simp only [Option.map_some, head?_exchange_beq _ hx, dropWhile_exchange (.beq hx),
      isGaps_exchange]

theorem isBreakOf_exchange {x : Char} (hx : exchangeChar x = x) (t : Text) :
    isBreakOf x (exchange t) = isBreakOf x t := by
  have hpart : Blind (fun d => d == x || isGap d) := by
    have hbeq : ('%' == x) = ('&' == x) := Blind.beq hx
    show ('%' == x || _) = ('&' == x || _)
    rw [hbeq, blind_isGap]
  have hcount : (exchange t).count x = t.count x := by
    have hinj := List.count_map_of_injective t exchangeChar exchangeChar_injective x
    rwa [hx] at hinj
  rw [isBreakOf, isBreakOf, head?_exchange_beq _ hx, all_exchange hpart, hcount]

theorem isBreak_exchange : isBreak (exchange l) = isBreak l := by
  rw [isBreak, isBreak, unindented?_exchange]
  cases unindented? l with
  | none => rfl
  | some r =>
    show (isBreakOf '-' (exchange r) || isBreakOf '*' (exchange r) || isBreakOf '_' (exchange r)) = _
    rw [isBreakOf_exchange (by decide), isBreakOf_exchange (by decide),
      isBreakOf_exchange (by decide)]

theorem isItem_exchange : isItem (exchange l) = isItem l := by
  rw [isItem, isItem, trimStart_exchange]
  cases trimStart l with
  | nil => rfl
  | cons c r =>
    have hbeq : ∀ {x d : Char}, exchangeChar x = x → (exchangeChar d == x) = (d == x) :=
      fun hx => (Blind.beq hx).exchangeChar _
    have htake := takeWhile_exchange blind_isDigit (c :: r)
    have hdrop := dropWhile_exchange blind_isDigit (c :: r)
    rw [exchange_cons] at htake hdrop ⊢
    simp only [htake, hdrop, length_exchange, endsOrGap_exchange,
      hbeq (show exchangeChar '-' = '-' by decide), hbeq (show exchangeChar '*' = '*' by decide),
      hbeq (show exchangeChar '+' = '+' by decide)]
    cases (c :: r).dropWhile isDigit with
    | nil => rfl
    | cons d s =>
      simp only [exchange_cons, endsOrGap_exchange, hbeq (show exchangeChar '.' = '.' by decide),
        hbeq (show exchangeChar ')' = ')' by decide)]

theorem indentation_exchange : indentation (exchange l) = indentation l := by
  rw [indentation, takeWhile_exchange blind_isBlank, length_exchange, indentation]

end LineKind

/-! ## Fences -/

namespace Fence

theorem exchangeChar_char (k : FenceKind) : exchangeChar k.char = k.char := by cases k <;> decide

/-- The fence with the rest of its line exchanged. -/
def exchange (f : Fence) : Fence := { f with rest := Text.exchange f.rest }

theorem exchange_marker (f : Fence) : Text.exchange f.marker = f.marker :=
  exchange_replicate (exchangeChar_char f.kind) f.length

theorem written_exchange (f : Fence) : f.exchange.written = Text.exchange f.written := by
  rw [written, written, exchange_append, exchange_append, exchange_marker,
    exchange_replicate (by decide)]
  rfl

theorem Proper.exchange {f : Fence} (h : f.Proper) : f.exchange.Proper where
  indent_le := h.indent_le
  three_le := h.three_le
  head_rest := by
    have hhead := head?_exchange_beq f.rest (exchangeChar_char f.kind)
    rw [Bool.eq_iff_iff, beq_iff_eq, beq_iff_eq] at hhead
    exact mt hhead.mp h.head_rest
  backtick_notMem := by
    intro hk hmem
    obtain ⟨c, hc, hcounter⟩ := List.mem_map.mp hmem
    obtain rfl := (exchangeChar_eq_iff (by decide)).mp hcounter
    exact h.backtick_notMem hk hc

/-- **Fence lines.**  A line is read as a fence when its counterpart is. -/
theorem ofLine?_exchange (l : Line) :
    ofLine? (Text.exchange l) = (ofLine? l).map exchange := by
  have hsome : ∀ {m f}, ofLine? m = some f → ofLine? (Text.exchange m) = some f.exchange := by
    intro m f h
    obtain ⟨hproper, rfl⟩ := ofLine?_eq_some_iff.mp h
    exact ofLine?_eq_some_iff.mpr ⟨hproper.exchange, (written_exchange f).symm⟩
  cases hl : ofLine? l with
  | some f => exact hsome hl
  | none =>
    cases hl' : ofLine? (Text.exchange l) with
    | none => rfl
    | some f =>
      have hback := hsome hl'
      rw [Text.exchange_exchange, hl] at hback
      cases hback

theorem info_exchange (f : Fence) : f.exchange.info = Text.exchange f.info := trim_exchange f.rest

end Fence

/-! ## Markers -/

namespace Marker

/-- The marker of the other target. -/
def exchange (m : Marker) : Marker := ⟨m.target.other, m.scope⟩

theorem exchange_exchange (m : Marker) : m.exchange.exchange = m := by simp [exchange]

theorem render_exchange (m : Marker) : m.exchange.render = Text.exchange m.render := by
  have hsuffix : Text.exchange m.scope.suffix = m.scope.suffix := by cases m.scope <;> decide
  rw [render, render, exchange_cons, exchangeChar_symbol, hsuffix]
  rfl

theorem ofWord?_exchange (w : Text) : ofWord? (Text.exchange w) = (ofWord? w).map exchange := by
  apply Option.ext
  intro m
  rw [ofWord?_eq_some_iff, Option.map_eq_some_iff]
  constructor
  · intro h
    refine ⟨m.exchange, ofWord?_eq_some_iff.mpr ?_, m.exchange_exchange⟩
    rw [render_exchange, ← h, Text.exchange_exchange]
  · rintro ⟨n, hn, rfl⟩
    rw [render_exchange, ofWord?_eq_some_iff.mp hn]

theorem peel_exchange (r : Text) :
    peel (Text.exchange r) = (Text.exchange (peel r).1, (peel r).2.map exchange) := by
  have hword : ∀ u : Text, ofWord? ((Text.exchange u).takeWhile (!isBlank ·)).reverse =
      (ofWord? (u.takeWhile (!isBlank ·)).reverse).map exchange := by
    intro u
    rw [takeWhile_exchange blind_isBlank.not, ← exchange_reverse, ofWord?_exchange]
  induction r using peel.induct with
  | case1 => rw [exchange_nil, peel_nil]; rfl
  | case2 c s word h =>
    rw [peel_of_none h, peel_of_none (by rw [hword, h]; rfl)]
    rfl
  | case3 c s word m h _ _ _ ih =>
    have hcounter := hword (c :: s)
    rw [h, exchange_cons] at hcounter
    rw [peel_of_some h, exchange_cons, peel_of_some hcounter,
      dropWhile_exchange blind_isBlank.not, trimStart_exchange, ih]
    rfl

/-- The markers of a text are those of its counterpart, each for the other target. -/
theorem find_exchange (t : Text) : find (Text.exchange t) = (find t).map exchange := by
  rw [find, ← exchange_reverse, trimStart_exchange, peel_exchange, find, List.map_reverse]

theorem strip_exchange (t : Text) : strip (Text.exchange t) = Text.exchange (strip t) := by
  unfold strip
  rw [← exchange_reverse, trimStart_exchange, peel_exchange]
  simp only [List.isEmpty_map]
  split_ifs
  · rfl
  · exact (exchange_reverse _).symm

theorem contains_exchange (ms : List Marker) (target : Target) (scope : Scope) :
    (ms.map exchange).contains ⟨target.other, scope⟩ = ms.contains ⟨target, scope⟩ := by
  have hinj : Function.Injective exchange := Function.LeftInverse.injective exchange_exchange
  rw [Bool.eq_iff_iff, List.contains_iff_mem, List.contains_iff_mem]
  exact List.mem_map_of_injective hinj (a := ⟨target, scope⟩)

theorem has_exchange (target : Target) (scope : Scope) (t : Text) :
    has target.other scope (Text.exchange t) = has target scope t := by
  rw [has, find_exchange, contains_exchange, has]

end Marker

/-! ## Info strings -/

namespace Info

/-- The info with its texts exchanged, hidden in each target when it was hidden in the other. -/
def exchange (i : Info) : Info where
  language := Text.exchange i.language
  name := i.name.map Text.exchange
  target := i.target.map Text.exchange
  imports := i.imports.map Text.exchange
  args := i.args.map (Prod.map Text.exchange Text.exchange)
  hiddenInDoc := i.hiddenInSlides
  hiddenInSlides := i.hiddenInDoc

theorem isExcludedFrom_exchange (i : Info) (target : Target) :
    i.exchange.isExcludedFrom target.other = i.isExcludedFrom target := by
  cases target <;> rfl

theorem bracketed?_exchange {key : Text} (hkey : Text.exchange key = key) (t : Text) :
    bracketed? key (Text.exchange t) =
      (bracketed? key t).map (Prod.map Text.exchange Text.exchange) := by
  rw [bracketed?, bracketed?, afterPrefix?_exchange hkey]
  cases afterPrefix? key t with
  | none => rfl
  | some r =>
    simp only [Option.map_some, cut_exchange (show exchangeChar ']' = ']' by decide)]
    rcases cut ']' r with ⟨inner, _ | after⟩ <;> rfl

theorem exported?_exchange (t : Text) :
    exported? (Text.exchange t) = (exported? t).map (Prod.map Text.exchange Text.exchange) := by
  unfold exported?
  rw [afterPrefix?_exchange (by decide)]
  cases afterPrefix? ['e', 'x', 'p', 'o', 'r', 't'] t with
  | none => rfl
  | some r =>
    simp only [Option.map_some, trimStart_exchange,
      afterPrefix?_exchange (show Text.exchange ['='] = ['='] by decide)]
    cases afterPrefix? ['='] (trimStart r) with
    | none => rfl
    | some s =>
      simp only [Option.map_some, trimStart_exchange, takeWhile_exchange blind_isBlank.not,
        dropWhile_exchange blind_isBlank.not, isEmpty_exchange]
      split_ifs <;> rfl

theorem takeOption_exchange {m : Text → Option (Text × Text)}
    (hm : ∀ s, m (Text.exchange s) = (m s).map (Prod.map Text.exchange Text.exchange)) (t : Text) :
    takeOption m (Text.exchange t) =
      ((takeOption m t).1.map Text.exchange, Text.exchange (takeOption m t).2) := by
  rw [takeOption, takeOption, search_exchange hm]
  rcases search m t with _ | ⟨before, value, after⟩
  · rfl
  · simp

theorem importsOf_exchange (inner : Text) :
    importsOf (Text.exchange inner) = (importsOf inner).map Text.exchange := by
  rw [importsOf, importsOf, pieces_exchange (by decide)]
  induction pieces ',' inner with
  | nil => rfl
  | cons p ps ih =>
    simp only [List.map_cons, List.filter_cons, trim_exchange, isEmpty_exchange]
    split_ifs
    · rw [List.map_cons, ← ih]
    · exact ih

theorem argOf?_exchange (item : Text) :
    argOf? (Text.exchange item) = (argOf? item).map (Prod.map Text.exchange Text.exchange) := by
  rw [argOf?, argOf?, cut_exchange (by decide)]
  rcases cut '=' item with ⟨key, _ | value⟩
  · rfl
  · simp only [Option.map_some, trim_exchange, isEmpty_exchange]
    split_ifs <;> rfl

theorem argsOf_exchange (inner : Text) :
    argsOf (Text.exchange inner) = (argsOf inner).map (Prod.map Text.exchange Text.exchange) := by
  rw [argsOf, argsOf, pieces_exchange (by decide), List.filterMap_map, List.map_filterMap]
  exact List.filterMap_congr fun item _ => argOf?_exchange item

/-- **Info strings.**  A block says the same of the other target when the two symbols of its info
string are exchanged. -/
theorem parse_exchange (info : Text) : parse (Text.exchange info) = (parse info).exchange := by
  have huses := fun t => takeOption_exchange
    (bracketed?_exchange (show Text.exchange ['u', 's', 'e', '=', '['] = _ by decide)) t
  have hargs := fun t => takeOption_exchange
    (bracketed?_exchange (show Text.exchange ['a', 'r', 'g', 's', '=', '['] = _ by decide)) t
  have hdoc := Marker.contains_exchange (Marker.find info) .slides .bare
  have hslides := Marker.contains_exchange (Marker.find info) .doc .bare
  simp only [Target.other] at hdoc hslides
  simp only [parse, exchange, Marker.find_exchange, hdoc, hslides, Marker.strip_exchange,
    trim_exchange, cut_exchange (show exchangeChar ' ' = ' ' by decide), getD_exchange, huses,
    takeOption_exchange exported?_exchange, hargs, words_exchange, importsOf_exchange,
    argsOf_exchange, List.head?_map]

end Info

end Literate

import Mathlib
import Literate.Proofs.Info.Spacing

/-!
# White space between the tokens of an info string

The language ends at the first space, everything else at any white space.  So an info string reads
the same however its tokens are spaced, as long as it is a space that ends the language.  One more
thing can go wrong: options are looked for inside brackets too, and one that is cut out of them with
the closing bracket leaves white space in an argument that stood outside.

* `Info.Respaced`: info strings that differ in white space outside brackets.
* `Info.Respaced.exists_side`: they are two sides of which brackets are kept.
* `Info.language_eq_firstWord_iff`: when the language is the first word.
* `Info.parse_side`: what an info string is read from.
* `Info.parse_respaced`: info strings that are respaced read the same.
-/

namespace Literate

open Text

namespace Info

/-! ## Respacing -/

/-- Two texts are respaced when they differ only in runs of white space outside brackets.  Brackets
go from an opening one to the next closing one. -/
inductive Respaced : Text → Text → Prop
  | nil : Respaced [] []
  /-- Any white space may stand for any other. -/
  | gap (a b : Gap) {s t : Text} (h : Respaced s t) : Respaced (a.1 ++ s) (b.1 ++ t)
  /-- What stands in brackets is kept. -/
  | brackets {inner s t : Text} (hinner : ']' ∉ inner) (h : Respaced s t) :
      Respaced ('[' :: (inner ++ ']' :: s)) ('[' :: (inner ++ ']' :: t))
  /-- Other text is kept.  An opening bracket is such text when it is never closed. -/
  | solid {c : Char} {s t : Text} (hc : isBlank c = false) (hopen : c = '[' → ']' ∉ s)
      (h : Respaced s t) : Respaced (c :: s) (c :: t)

theorem Respaced.refl (t : Text) : Respaced t t := by
  induction hn : t.length using Nat.strong_induction_on generalizing t with
  | _ n ih =>
  subst hn
  cases t with
  | nil => exact .nil
  | cons c t =>
    have htail := ih t.length (by simp) t rfl
    cases hc : isBlank c with
    | true =>
      have hall : [c].all isBlank = true := by simp [hc]
      exact .gap (.of [c] (by simp) hall) (.of [c] (by simp) hall) htail
    | false =>
      by_cases hclosed : c = '[' ∧ ']' ∈ t
      · obtain ⟨rfl, hmem⟩ := hclosed
        obtain ⟨inner, rest, rfl, hinner⟩ := List.eq_append_cons_of_mem hmem
        exact .brackets hinner (ih rest.length (by simp; omega) rest rfl)
      · exact .solid hc (fun hopen hmem => hclosed ⟨hopen, hmem⟩) htail

/-- A word without an opening bracket is kept. -/
theorem Respaced.word (w : Text) (hw : (w.all fun c => !isBlank c && c != '[') = true) {s t : Text}
    (h : Respaced s t) : Respaced (w ++ s) (w ++ t) := by
  induction w with
  | nil => exact h
  | cons c w ih =>
    rw [List.all_cons, Bool.and_eq_true, Bool.and_eq_true, Bool.not_eq_true', bne_iff_ne] at hw
    exact .solid hw.1.1 (fun hopen => absurd hopen hw.1.2) (ih hw.2)

variable {ps : List Stretch}

theorem Kept.nil : Kept [] := by
  rintro (_ | ⟨p, front⟩) inner back heq <;> cases heq

/-- A stretch in front, when it opens no brackets or ones that hold the same text. -/
theorem Kept.cons {p : Stretch} (h : Kept ps)
    (hp : p = .same '[' → ∀ inner back, ps = inner ++ .same ']' :: back → .same ']' ∉ inner →
      ∀ q ∈ inner, ∃ c, q = .same c) : Kept (p :: ps) := by
  intro front inner back heq hinner
  cases front with
  | nil =>
    obtain ⟨hopen, hps⟩ := List.cons.inj heq
    exact hp hopen inner back hps hinner
  | cons q front => exact h front inner back (List.cons.inj heq).2 hinner

/-- Text up to a closing bracket in front. -/
theorem Kept.closed {inner : Text} (h : Kept ps) (hinner : ']' ∉ inner) :
    Kept (inner.map .same ++ .same ']' :: ps) := by
  induction inner with
  | nil => exact h.cons fun hopen => absurd (Stretch.same.inj hopen) (by decide)
  | cons c inner ih =>
    rw [List.mem_cons, not_or] at hinner
    refine (ih hinner.2).cons fun _ body back heq hbody q hq => ?_
    -- the first closing bracket is the one behind the text
    have hq : q ∈ inner.map Stretch.same := by
      rcases List.append_eq_append_iff.mp heq with ⟨gap, rfl, hgap⟩ | ⟨gap, hgap, -⟩
      · cases gap with
        | nil => rwa [List.append_nil] at hq
        | cons p gap =>
          obtain ⟨rfl, -⟩ := List.cons.inj hgap
          simp at hbody
      · rw [hgap]
        exact List.mem_append_left gap hq
    obtain ⟨d, -, rfl⟩ := List.mem_map.mp hq
    exact ⟨d, rfl⟩

theorem side_map_same (second : Bool) (t : Text) (ps : List Stretch) :
    side second (t.map .same ++ ps) = t ++ side second ps := by
  induction t with
  | nil => rfl
  | cons c t ih => rw [List.map_cons, List.cons_append, side_same, ih, List.cons_append]

/-- Respaced texts are two sides whose brackets are kept. -/
theorem Respaced.exists_side {s t : Text} (h : Respaced s t) :
    ∃ ps, Kept ps ∧ side false ps = s ∧ side true ps = t := by
  induction h with
  | nil => exact ⟨[], Kept.nil, rfl, rfl⟩
  | gap a b _ ih =>
    obtain ⟨ps, hkept, rfl, rfl⟩ := ih
    exact ⟨.gap a b :: ps, hkept.cons nofun, rfl, rfl⟩
  | @brackets inner _ _ hinner _ ih =>
    obtain ⟨ps, hkept, rfl, rfl⟩ := ih
    have hnot : ']' ∉ '[' :: inner := by simp [hinner]
    refine ⟨_, hkept.closed hnot, ?_, ?_⟩ <;> rw [side_map_same, side_same] <;> rfl
  | solid hc hopen _ ih =>
    obtain ⟨ps, hkept, rfl, rfl⟩ := ih
    refine ⟨.same _ :: ps, hkept.cons fun heq inner back hps => ?_, rfl, rfl⟩
    refine absurd ?_ (hopen (Stretch.same.inj heq))
    rw [hps, side_append, side_same]
    simp

/-! ## The first word -/

/-- An info string without its markers. -/
def unmarked (i : Text) : Text := trim (Marker.strip i)

/-- The first word of what is left after removing the markers. -/
def firstWord (i : Text) : Text := (words (Marker.strip i)).head?.getD []

/-- A space stands behind the first word, or nothing does. -/
def SpaceLed (i : Text) : Prop := ∀ c ∈ ((unmarked i).dropWhile (!isBlank ·)).head?, c = ' '

instance (i : Text) : Decidable (SpaceLed i) :=
  decidable_of_iff ((((unmarked i).dropWhile (!isBlank ·)).head?.all (· == ' ')) = true) (by
    simp [SpaceLed, Option.all_eq_true])

theorem unmarked_trim (i : Text) : unmarked (trim i) = unmarked i := Marker.trim_strip_trim i

theorem firstWord_eq (i : Text) : firstWord i = (unmarked i).takeWhile (!isBlank ·) := by
  rw [firstWord, ← words_trim, ← unmarked]
  have hsolid : StartsSolid (unmarked i) := startsSolid_trimStart _
  cases hi : unmarked i with
  | nil => rfl
  | cons c t =>
    rw [words_cons (hsolid c (by rw [hi]; rfl))]
    rfl

/-- What is cut at the first space, where a space is the white space behind the first word. -/
theorem cut_of_head?_dropWhile {t : Text}
    (h : ∀ c ∈ (t.dropWhile (!isBlank ·)).head?, c = ' ') :
    (cut ' ' t).1 = t.takeWhile (!isBlank ·) ∧
      trim ((cut ' ' t).2.getD []) = trim (t.dropWhile (!isBlank ·)) := by
  have hword : ' ' ∉ t.takeWhile (!isBlank ·) := by
    intro hmem
    exact absurd (List.mem_takeWhile_imp hmem) (by decide)
  have hcut : cut ' ' t = cut ' ' (t.takeWhile (!isBlank ·) ++ t.dropWhile (!isBlank ·)) := by
    rw [List.takeWhile_append_dropWhile]
  cases hdrop : t.dropWhile (!isBlank ·) with
  | nil =>
    rw [hdrop, List.append_nil, cut_of_notMem hword] at hcut
    rw [hcut]
    exact ⟨rfl, rfl⟩
  | cons c rest =>
    obtain rfl := h c (by rw [hdrop]; rfl)
    rw [hdrop, cut_append hword] at hcut
    rw [hcut]
    exact ⟨rfl, (trim_blank_append isBlank_space rest).symm⟩

/-- What is cut at the first space is no first word when other white space comes first. -/
theorem head?_dropWhile_of_cut {t : Text} (h : (cut ' ' t).1 = t.takeWhile (!isBlank ·)) :
    ∀ c ∈ (t.dropWhile (!isBlank ·)).head?, c = ' ' := by
  intro c hc
  have hsplit : t = t.takeWhile (!isBlank ·) ++ t.dropWhile (!isBlank ·) :=
    List.takeWhile_append_dropWhile.symm
  by_cases hmem : ' ' ∈ t
  · obtain ⟨front, back, rfl, hfront⟩ := List.eq_append_cons_of_mem hmem
    rw [cut_append hfront] at h
    rw [← h] at hsplit
    rw [← List.append_cancel_left hsplit] at hc
    exact (Option.some.inj hc).symm
  · rw [cut_of_notMem hmem] at h
    rw [← h] at hsplit
    rw [List.self_eq_append_right.mp hsplit] at hc
    cases hc

/-- **The language is the first word** exactly when no other white space than a space ends it. -/
theorem language_eq_firstWord_iff (i : Text) :
    (parse i).language = firstWord i ↔ SpaceLed i := by
  rw [firstWord_eq]
  exact ⟨head?_dropWhile_of_cut, fun h => (cut_of_head?_dropWhile h).1⟩

/-! ## Reading -/

/-- What is searched for options. -/
def optionsText (i : Text) : Text := trim ((cut ' ' (unmarked i)).2.getD [])

theorem parse_eq (i : Text) :
    parse i =
      { language := (cut ' ' (unmarked i)).1
        name := (words (found (optionsText i)).left).head?
        target := (found (optionsText i)).target
        imports := importsOf ((found (optionsText i)).uses.getD [])
        args := argsOf ((found (optionsText i)).args.getD [])
        hiddenInDoc := (Marker.find i).contains ⟨.doc, .bare⟩
        hiddenInSlides := (Marker.find i).contains ⟨.slides, .bare⟩ } := rfl

/-- Markers, and what is left without them. -/
theorem unmarked_side (h : Kept ps) :
    ∃ us ms, Kept us ∧ ∀ {i : Text} {second : Bool}, side second ps = trim i →
      Marker.find i = ms ∧ unmarked i = side second us := by
  obtain ⟨qs, ms, hprefix, hstrip⟩ := Marker.find_strip_side ps
  refine ⟨trimmed qs, ms, h.of_isInfix ((trimmed_isInfix qs).trans hprefix.isInfix), ?_⟩
  intro i second hi
  obtain ⟨hfind, hrest⟩ := hstrip second
  rw [hi] at hfind hrest
  exact ⟨by rw [← hfind, Marker.find_trim], by rw [← unmarked_trim, unmarked, hrest, trim_side]⟩

section

variable {us : List Stretch}

/-- The first word is the same on both sides. -/
theorem firstWord_side {i : Text} {second : Bool} (hi : unmarked i = side second us) :
    firstWord i = side false (us.takeWhile (!Stretch.isBlank ·)) := by
  rw [firstWord_eq, hi, (takeWhile_dropWhile_side second us).1]

/-- What is searched for options, where a space ends the first word. -/
theorem optionsText_side {i : Text} {second : Bool} (hi : unmarked i = side second us)
    (hled : SpaceLed i) :
    optionsText i = side second (trimmed (us.dropWhile (!Stretch.isBlank ·))) := by
  rw [optionsText, (cut_of_head?_dropWhile hled).2, hi, (takeWhile_dropWhile_side second us).2,
    trim_side]

end

/-- The first word and the markers do not depend on white space. -/
theorem Respaced.firstWord_find {i j : Text} (h : Respaced (trim i) (trim j)) :
    firstWord j = firstWord i ∧ Marker.find j = Marker.find i := by
  obtain ⟨ps, hkept, hi, hj⟩ := h.exists_side
  obtain ⟨us, ms, -, hread⟩ := unmarked_side hkept
  obtain ⟨hfind, hunmarked⟩ := hread hi
  obtain ⟨hfind', hunmarked'⟩ := hread hj
  exact ⟨(firstWord_side hunmarked').trans (firstWord_side hunmarked).symm,
    hfind'.trans hfind.symm⟩

/-- Where a space ends the first word, everything but the arguments is read from what both sides
share. -/
theorem parse_side (h : Kept ps) :
    ∃ (info : Info) (args : Option (List Stretch)) (os : List Stretch),
      (∀ {i : Text} {second : Bool}, side second ps = trim i → SpaceLed i →
        optionsText i = side second os ∧
          parse i = { info with args := argsOf ((args.map (side second)).getD []) }) ∧
      (severs (side false os) = false →
        ∀ inner ∈ args, ∀ second, side second inner = side false inner) := by
  obtain ⟨us, ms, hus, hread⟩ := unmarked_side h
  have hos : Kept (trimmed (us.dropWhile (!Stretch.isBlank ·))) :=
    hus.of_isInfix ((trimmed_isInfix _).trans (List.dropWhile_suffix _).isInfix)
  obtain ⟨uses, target, args, left, hfound, hargs⟩ := found_side hos
  refine ⟨{ language := side false (us.takeWhile (!Stretch.isBlank ·))
            name := (words (side false left)).head?
            target
            imports := importsOf (uses.getD [])
            args := []
            hiddenInDoc := ms.contains ⟨.doc, .bare⟩
            hiddenInSlides := ms.contains ⟨.slides, .bare⟩ }, args, _, ?_, hargs⟩
  intro i second hi hled
  obtain ⟨hfind, hunmarked⟩ := hread hi
  have hlanguage : (cut ' ' (unmarked i)).1 = side false (us.takeWhile (!Stretch.isBlank ·)) :=
    ((language_eq_firstWord_iff i).mpr hled).trans (firstWord_side hunmarked)
  have hoptions := optionsText_side hunmarked hled
  refine ⟨hoptions, ?_⟩
  rw [parse_eq, hlanguage, hoptions, hfound, hfind, words_side]

/-- **White space between tokens.**  The markers and the first word do not depend on it.  The first
word is the language unless other white space than a space ends it.  Between info strings of that
kind everything is read the same, but for white space in arguments, and that only after brackets
were severed. -/
theorem parse_respaced {i j : Text} (h : Respaced (trim i) (trim j)) :
    (parse j).hiddenInDoc = (parse i).hiddenInDoc ∧
      (parse j).hiddenInSlides = (parse i).hiddenInSlides ∧
      firstWord j = firstWord i ∧
      ((parse i).language = firstWord i ↔ SpaceLed i) ∧
      (SpaceLed i → SpaceLed j →
        { parse j with args := (parse j).args.map plainArg } =
          { parse i with args := (parse i).args.map plainArg }) ∧
      (SpaceLed i → severs (optionsText i) = false → (parse j = parse i ↔ SpaceLed j)) := by
  obtain ⟨hword, hfind⟩ := h.firstWord_find
  obtain ⟨ps, hkept, hi, hj⟩ := h.exists_side
  obtain ⟨info, args, os, hparse, hargs⟩ := parse_side hkept
  refine ⟨by rw [parse_eq, parse_eq, hfind], by rw [parse_eq, parse_eq, hfind], hword,
    language_eq_firstWord_iff i, fun hledi hledj => ?_,
    fun hledi hwhole => ⟨fun hsame => ?_, fun hledj => ?_⟩⟩
  · rw [(hparse hi hledi).2, (hparse hj hledj).2]
    cases args with
    | none => rfl
    | some inner => simp only [Option.map_some, Option.getD_some, argsOf_side true]
  · rw [← language_eq_firstWord_iff, hsame, hword]
    exact (language_eq_firstWord_iff i).mpr hledi
  · rw [(hparse hi hledi).1] at hwhole
    rw [(hparse hi hledi).2, (hparse hj hledj).2]
    cases args with
    | none => rfl
    | some inner => simp only [Option.map_some, hargs hwhole inner rfl true]

/-- Tabs and more spaces between the tokens, and white space at both ends. -/
theorem parse_respaced_tabs :
    let i := "c use=[a b] x %".toList
    let j := " c  use=[a b]\tx\t% ".toList
    Respaced (trim i) (trim j) ∧ SpaceLed i ∧ severs (optionsText i) = false ∧ SpaceLed j ∧
      parse j = parse i := by
  intro i j
  have htail : Respaced "x %".toList "x\t%".toList :=
    .word ['x'] (by decide) (.gap .space .tab (.refl ['%']))
  have hrespaced : Respaced (trim i) (trim j) :=
    .word ['c'] (by decide) <| .gap .space (.of [' ', ' '] (by simp) (by decide)) <|
      .word ['u', 's', 'e', '='] (by decide) <| .brackets (show ']' ∉ ['a', ' ', 'b'] by decide) <|
        .gap .space .tab htail
  have hledi : SpaceLed i := by decide +kernel
  have hwhole : severs (optionsText i) = false := by decide +kernel
  have hledj : SpaceLed j := by decide +kernel
  exact ⟨hrespaced, hledi, hwhole, hledj,
    ((parse_respaced hrespaced).2.2.2.2.2 hledi hwhole).mpr hledj⟩

/-- A tab behind the first word is read as part of the language.  A target that is found inside the
brackets of arguments takes the closing one with it, so white space from behind them gets in. -/
theorem parse_respaced_misread :
    let i := "sh hello".toList
    let j := "sh\thello".toList
    let k := "sh args=[x export=y] b=c d]".toList
    let l := "sh args=[x export=y] b=c\td]".toList
    Respaced (trim i) (trim j) ∧ firstWord j = "sh".toList ∧
      parse i = ⟨"sh".toList, some "hello".toList, none, [], [], false, false⟩ ∧
      parse j = ⟨"sh\thello".toList, none, none, [], [], false, false⟩ ∧
      Respaced (trim k) (trim l) ∧ SpaceLed k ∧ SpaceLed l ∧ severs (optionsText k) = true ∧
      (parse k).args = [("x  b".toList, "c d".toList)] ∧
      (parse l).args = [("x  b".toList, "c\td".toList)] := by
  intro i j k l
  have hij : Respaced (trim i) (trim j) :=
    .word ['s', 'h'] (by decide) (.gap .space .tab (.refl "hello".toList))
  have hkl : Respaced (trim k) (trim l) :=
    .word ['s', 'h'] (by decide) <| .gap .space .space <|
      .word ['a', 'r', 'g', 's', '='] (by decide) <|
      .brackets (show ']' ∉ "x export=y".toList by decide) <| .gap .space .space <|
      .word ['b', '=', 'c'] (by decide) <| .gap .space .tab <| .refl ['d', ']']
  exact ⟨hij, by decide +kernel, by decide +kernel, by decide +kernel, hkl, by decide +kernel,
    by decide +kernel, by decide +kernel, by decide +kernel, by decide +kernel⟩

end Info

end Literate

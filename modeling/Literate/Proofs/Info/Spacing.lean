import Mathlib
import Literate.Info
import Literate.Proofs.Info.Option
import Literate.Proofs.Marker
import Literate.Proofs.Text.Spacing

/-!
# Reading two info strings that differ in white space

Markers and options are looked for in two texts at once.  Whatever recognises one of them respects
white space, so every turn cuts both texts at the same stretches.  What is left to say is what
becomes of brackets: text that is cut out of them leaves the rest as it was, unless the closing
bracket goes with it.

* `Marker.find_strip_side`: markers are the same on both sides.
* `Info.respects_bracketed?`, `Info.respects_exported?`: options respect white space.
* `Info.Kept`, `Info.Kept.cut`: brackets hold the same text on both sides, also after a turn.
* `Info.severs`, `Info.found_side`: the three turns.
* `Info.argsOf_side`: arguments, up to the white space between their words.
-/

namespace Literate

open Text

/-! ## Markers -/

namespace Marker

/-- Taking markers off the front of a reversed text stops at the same stretch on both sides. -/
theorem peel_side (ps : List Stretch) :
    ∃ rest ms, rest <:+ ps ∧ ∀ second, peel (side second ps) = (side second rest, ms) := by
  induction hn : ps.length using Nat.strong_induction_on generalizing ps with
  | _ n ih =>
  subst hn
  have hword : ∀ second, (side second ps).takeWhile (!isBlank ·) =
      side false (ps.takeWhile (!Stretch.isBlank ·)) := fun second =>
    (takeWhile_dropWhile_side second ps).1
  cases hm : ofWord? (side false (ps.takeWhile (!Stretch.isBlank ·))).reverse with
  | none =>
    refine ⟨ps, [], List.suffix_rfl, fun second => peel_of_none ?_⟩
    rw [hword, hm]
  | some m =>
    cases ps with
    | nil => cases hm
    | cons p ps =>
      cases hp : p.isBlank with
      | true =>
        rw [List.takeWhile_cons_of_neg (by simp [hp])] at hm
        cases hm
      | false =>
        obtain ⟨c, rfl, -⟩ := Stretch.eq_same_of_not_isBlank hp
        have hsuffix : (ps.dropWhile (!Stretch.isBlank ·)).dropWhile Stretch.isBlank <:+ ps :=
          (List.dropWhile_suffix _).trans (List.dropWhile_suffix _)
        obtain ⟨rest, ms, hrest, hpeel⟩ := ih _ (Nat.lt_succ_of_le hsuffix.length_le) _ rfl
        refine ⟨rest, m :: ms, ?_, fun second => ?_⟩
        · exact hrest.trans (hsuffix.trans (List.suffix_cons _ ps))
        · have hsome := hword second
          rw [side_same] at hsome ⊢
          rw [peel_of_some (by rw [hsome, hm]), (takeWhile_dropWhile_side second ps).2,
            trimStart_side, hpeel]

/-- **Markers are the same on both sides**, and stripping them cuts both at the same stretch. -/
theorem find_strip_side (ps : List Stretch) :
    ∃ qs ms, qs <+: ps ∧
      ∀ second, find (side second ps) = ms ∧ strip (side second ps) = side second qs := by
  obtain ⟨rest, ms, hrest, hpeel⟩ :=
    peel_side ((ps.reverse.map Stretch.reverse).dropWhile Stretch.isBlank)
  have hpeel' : ∀ second, peel (trimStart (side second ps).reverse) = (side second rest, ms) :=
    fun second => by rw [side_reverse, trimStart_side, hpeel]
  by_cases hms : ms = []
  · refine ⟨ps, [], List.prefix_rfl, fun second => ?_⟩
    have hfind : find (side second ps) = [] := by rw [find, hpeel', hms]; rfl
    exact ⟨hfind, strip_of_find_eq_nil hfind⟩
  · refine ⟨rest.reverse.map Stretch.reverse, ms.reverse, ?_, fun second => ?_⟩
    · have hrev : rest.reverse <+: (ps.reverse.map Stretch.reverse).reverse :=
        List.reverse_prefix.mpr (hrest.trans (List.dropWhile_suffix _))
      have hall : (ps.reverse.map Stretch.reverse).reverse.map Stretch.reverse = ps := by
        rw [List.map_reverse, List.map_map, List.map_reverse, List.reverse_reverse]
        exact (List.map_congr_left fun p _ => p.reverse_reverse).trans (List.map_id ps)
      exact hall ▸ hrev.map Stretch.reverse
    · have hfind : find (side second ps) = ms.reverse := by rw [find, hpeel']
      refine ⟨hfind, ?_⟩
      rw [strip_eq (by rw [hfind]; simpa using hms), hpeel', side_reverse]

end Marker

namespace Info

/-! ## Options -/

theorem solid_of_all (key : Text) (h : key.all (!isBlank ·) = true) :
    ∀ c ∈ key, isBlank c = false := by
  simpa using h

/-- What a bracketed option is read from: its key, and what stands before the closing bracket. -/
def Bracketed (key : Text) (qs : List Stretch) (a : Bool → Text) : Prop :=
  ∃ inner, qs = key.map .same ++ (inner ++ [.same ']']) ∧ Stretch.same ']' ∉ inner ∧
    a = fun second => side second inner

theorem respects_bracketed? {key : Text} (hkey : ∀ c ∈ key, isBlank c = false) :
    Respects (bracketed? key) (Bracketed key) := by
  intro ps
  rcases afterPrefix?_side hkey ps with hnone | ⟨rest, rfl, hsome⟩
  · exact .inl fun second => by rw [bracketed?, hnone]
  · rcases cut_side (show isBlank ']' = false by decide) rest with
      hnone | ⟨inner, back, rfl, hinner, hcut⟩
    · exact .inl fun second => by rw [bracketed?, hsome]; simp only [hnone]
    · refine .inr ⟨key.map .same ++ (inner ++ [.same ']']), back, fun second => side second inner,
        by simp, ⟨inner, rfl, hinner, rfl⟩, fun second => ?_⟩
      rw [bracketed?, hsome]
      simp only [hcut]

/-- What a target is read from has a closing bracket only in the target. -/
def Exported (qs : List Stretch) (a : Bool → Text) : Prop :=
  ∃ target, (a = fun _ => target) ∧ (.same ']' ∈ qs → ']' ∈ target)

theorem respects_exported? : Respects exported? Exported := by
  intro ps
  rcases afterPrefix?_side (solid_of_all ['e', 'x', 'p', 'o', 'r', 't'] (by decide)) ps with
    hnone | ⟨rest₁, rfl, hsome₁⟩
  · exact .inl fun second => by rw [exported?, hnone]
  rcases afterPrefix?_side (solid_of_all ['='] (by decide)) (rest₁.dropWhile Stretch.isBlank) with
    hnone | ⟨rest₂, hrest₂, hsome₂⟩
  · exact .inl fun second => by rw [exported?, hsome₁]; simp only [trimStart_side, hnone]
  -- the word behind the equals sign, and what follows it
  obtain ⟨value, hvalue⟩ :
      ∃ value, value = (rest₂.dropWhile Stretch.isBlank).takeWhile (!Stretch.isBlank ·) := ⟨_, rfl⟩
  obtain ⟨after, hafter⟩ :
      ∃ after, after = (rest₂.dropWhile Stretch.isBlank).dropWhile (!Stretch.isBlank ·) := ⟨_, rfl⟩
  have hsplit : rest₁ = rest₁.takeWhile Stretch.isBlank ++
      (.same '=' :: (rest₂.takeWhile Stretch.isBlank ++ (value ++ after))) := by
    conv_lhs => rw [← List.takeWhile_append_dropWhile (p := Stretch.isBlank) (l := rest₁)]
    rw [hrest₂, hvalue, hafter, List.takeWhile_append_dropWhile, List.takeWhile_append_dropWhile]
    rfl
  have hread : ∀ second, exported?
      (side second ((['e', 'x', 'p', 'o', 'r', 't'] : Text).map .same ++ rest₁)) =
        if (side false value).isEmpty then none else some (side false value, side second after) := by
    intro second
    obtain ⟨htake, hdrop⟩ := takeWhile_dropWhile_side second (rest₂.dropWhile Stretch.isBlank)
    rw [exported?, hsome₁]
    simp only [trimStart_side, hsome₂, htake, hdrop, hvalue, hafter]
  cases hempty : (side false value).isEmpty with
  | true => exact .inl fun second => by rw [hread, hempty, if_pos rfl]
  | false =>
    refine .inr ⟨(['e', 'x', 'p', 'o', 'r', 't'] : Text).map .same ++
      (rest₁.takeWhile Stretch.isBlank ++
        (.same '=' :: (rest₂.takeWhile Stretch.isBlank ++ value))), after, fun _ => side false value,
      ?_, ⟨side false value, rfl, ?_⟩, fun second => by
        rw [hread, hempty, if_neg Bool.false_ne_true]⟩
    · conv_lhs => rw [hsplit]
      simp only [List.append_assoc, List.cons_append]
    · intro hmem
      have hblank : ∀ qs : List Stretch, .same ']' ∉ qs.takeWhile Stretch.isBlank := by
        intro qs hq
        exact absurd (List.mem_takeWhile_imp hq) (by decide)
      have hword : .same ']' ∈ value := by simpa [hblank] using hmem
      exact List.mem_flatMap.mpr ⟨_, hword, List.mem_singleton_self ']'⟩

/-! ## Brackets -/

/-- Brackets, from an opening one to the next closing one, hold the same text on both sides. -/
def Kept (ps : List Stretch) : Prop :=
  ∀ front inner back, ps = front ++ .same '[' :: (inner ++ .same ']' :: back) →
    .same ']' ∉ inner → ∀ p ∈ inner, ∃ c, p = .same c

variable {ps qs : List Stretch}

theorem Kept.of_isInfix (h : Kept ps) (hqs : qs <:+: ps) : Kept qs := by
  obtain ⟨a, b, rfl⟩ := hqs
  rintro front inner back rfl
  exact h (a ++ front) inner (back ++ b) (by simp)

/-- Whether a bracket is open at the end of a text. -/
def leavesOpen (t : Text) : Bool := (t.reverse.takeWhile (· != ']')).contains '['

theorem leavesOpen_append {a b : Text} (h : ']' ∉ b) : leavesOpen (a ++ '[' :: b) = true := by
  have hb : ∀ c ∈ b.reverse, (c != ']') = true := by
    intro c hc
    have hne : c ≠ ']' := by
      rintro rfl
      exact h (List.mem_reverse.mp hc)
    simpa using hne
  rw [leavesOpen, List.reverse_append, List.reverse_cons, List.append_assoc,
    List.takeWhile_append_of_pos hb]
  simp

/-- What is cut out of the brackets takes nothing from them, unless it takes the closing bracket of
an open one with it. -/
theorem Kept.cut {front back : List Stretch} (h : Kept (front ++ (qs ++ back)))
    (hwhole : leavesOpen (side false front) = true → .same ']' ∉ qs) : Kept (front ++ back) := by
  intro a inner b heq hinner
  rcases List.append_eq_append_iff.mp heq with ⟨gap, rfl, hback⟩ | ⟨gap, rfl, hgap⟩
  · -- the brackets stand behind the cut
    exact h (front ++ (qs ++ gap)) inner b (by simp [hback]) hinner
  · cases gap with
    | nil =>
      rw [List.nil_append] at hgap
      exact h (a ++ qs) inner b (by simp [hgap]) hinner
    | cons p gap =>
      obtain ⟨rfl, hrest⟩ := List.cons.inj hgap
      -- a bracket that is open where something is cut out is closed behind it
      have hseam : ∀ middle, inner = gap ++ middle → back = middle ++ .same ']' :: b →
          ∀ p ∈ inner, ∃ c, p = Stretch.same c := by
        rintro middle rfl rfl
        rw [List.mem_append, not_or] at hinner
        have hopen : leavesOpen (side false (a ++ .same '[' :: gap)) = true := by
          rw [side_append, side_same]
          exact leavesOpen_append (notMem_side (by decide) hinner.1 false)
        have hnot : .same ']' ∉ gap ++ (qs ++ middle) := by
          simp [hinner.1, hwhole hopen, hinner.2]
        have hall := h a (gap ++ (qs ++ middle)) b (by simp) hnot
        intro p hp
        refine hall p ?_
        rcases List.mem_append.mp hp with hp | hp <;> simp [hp]
      rcases List.append_eq_append_iff.mp hrest with ⟨gap', rfl, hgap'⟩ | ⟨gap', rfl, hgap'⟩
      · cases gap' with
        | nil => exact hseam [] (by simp) hgap'.symm
        | cons q gap' =>
          obtain ⟨rfl, rfl⟩ := List.cons.inj hgap'
          exact h a inner (gap' ++ (qs ++ back)) (by simp) hinner
      · exact hseam gap' rfl hgap'

/-! ## Turns -/

section

variable {α : Type} {m : Text → Option (α × Text)} {P : List Stretch → (Bool → α) → Prop}

/-- One turn takes the same stretches out of both sides. -/
theorem takeOption_side (hm : Respects m P) (hblank : ∀ c t, isBlank c = true → m (c :: t) = none)
    (ps : List Stretch) :
    (∀ second, takeOption m (side second ps) = (none, side second ps)) ∨
      ∃ front qs back a, ps = front ++ (qs ++ back) ∧ P qs a ∧ ∀ second,
        search m (side second ps) = some (side second front, a second, side second back) ∧
          takeOption m (side second ps) = (some (a second), side second (front ++ back)) := by
  rcases search_side hm hblank ps with hnone | ⟨front, qs, back, a, hps, hP, hsome⟩
  · exact .inl fun second => by rw [takeOption, hnone]
  · exact .inr ⟨front, qs, back, a, hps, hP, fun second =>
      ⟨hsome second, by rw [takeOption, hsome, side_append]⟩⟩

end

/-- The turn of a bracketed option.  Brackets that are kept have the same text between them, and
stay kept unless the option stood inside open ones. -/
theorem bracketed_turn {key word : Text} (hopen : key = word ++ ['['])
    (hkey : ∀ c ∈ key, isBlank c = false) (ps : List Stretch) :
    ∃ (inner? : Option (List Stretch)) (rest : List Stretch),
      (∀ second, takeOption (bracketed? key) (side second ps) =
        (inner?.map (side second), side second rest)) ∧
      (Kept ps → ∀ inner ∈ inner?, ∀ second, side second inner = side false inner) ∧
      (Kept ps → ((search (bracketed? key) (side false ps)).any
        fun found => leavesOpen found.1) = false → Kept rest) := by
  have hblank : ∀ c t, isBlank c = true → bracketed? key (c :: t) = none := by
    intro c t hc
    obtain ⟨d, tail, rfl⟩ := List.exists_cons_of_ne_nil (show key ≠ [] by simp [hopen])
    refine bracketed?_cons ?_ t
    rintro rfl
    exact Bool.false_ne_true ((hkey c List.mem_cons_self).symm.trans hc)
  rcases takeOption_side (respects_bracketed? hkey) hblank ps with
    hnone | ⟨front, qs, back, a, rfl, ⟨inner, rfl, hinner, rfl⟩, hsome⟩
  · exact ⟨none, ps, hnone, fun _ => by simp, fun h _ => h⟩
  · refine ⟨some inner, front ++ back, fun second => (hsome second).2, ?_, ?_⟩
    · rintro hkept _ ⟨⟩ second
      exact side_congr second
        (hkept (front ++ word.map .same) inner back (by simp [hopen]) hinner)
    · intro hkept hclosed
      rw [(hsome false).1, Option.any_some] at hclosed
      exact hkept.cut fun hleft => absurd (hclosed.symm.trans hleft) Bool.false_ne_true

/-- The turn of a target. -/
theorem target_turn (ps : List Stretch) :
    ∃ (target : Option Text) (rest : List Stretch),
      (∀ second, takeOption exported? (side second ps) = (target, side second rest)) ∧
      (Kept ps → ((search exported? (side false ps)).any
        fun found => leavesOpen found.1 && found.2.1.contains ']') = false → Kept rest) := by
  have hblank : ∀ c t, isBlank c = true → exported? (c :: t) = none := by
    intro c t hc
    refine exported?_cons ?_ t
    rintro rfl
    exact absurd hc (by decide)
  rcases takeOption_side respects_exported? hblank ps with
    hnone | ⟨front, qs, back, a, rfl, ⟨target, rfl, htarget⟩, hsome⟩
  · exact ⟨none, ps, hnone, fun h _ => h⟩
  · refine ⟨some target, front ++ back, fun second => (hsome second).2, fun hkept hclosed => ?_⟩
    rw [(hsome false).1, Option.any_some] at hclosed
    refine hkept.cut fun hopen hmem => ?_
    rw [hopen, Bool.true_and, List.contains_eq_mem, decide_eq_false_iff_not] at hclosed
    exact hclosed (htarget hmem)

/-- What the three turns find, and what they leave. -/
structure Found where
  uses : Option Text
  target : Option Text
  args : Option Text
  left : Text

/-- The three turns. -/
def found (t : Text) : Found :=
  let (uses, rest₁) := takeOption (bracketed? ['u', 's', 'e', '=', '[']) t
  let (target, rest₂) := takeOption exported? rest₁
  let (args, left) := takeOption (bracketed? ['a', 'r', 'g', 's', '=', '[']) rest₂
  { uses, target, args, left }

/-- Whether imports or a target are found inside open brackets and cut out with the bracket that
closes them.  Then what is inside brackets is no longer what was written there. -/
def severs (t : Text) : Bool :=
  ((search (bracketed? ['u', 's', 'e', '=', '[']) t).any fun found => leavesOpen found.1) ||
    (search exported? (takeOption (bracketed? ['u', 's', 'e', '=', '[']) t).2).any
      fun found => leavesOpen found.1 && found.2.1.contains ']'

/-- **The three turns.**  They find the same on both sides, but for white space in arguments, and
that only after brackets were severed. -/
theorem found_side (h : Kept ps) :
    ∃ (uses target : Option Text) (args : Option (List Stretch)) (left : List Stretch),
      (∀ second, found (side second ps) =
        ⟨uses, target, args.map (side second), side second left⟩) ∧
      (severs (side false ps) = false →
        ∀ inner ∈ args, ∀ second, side second inner = side false inner) := by
  obtain ⟨uses, rest₁, huses, hsame, hkept₁⟩ :=
    bracketed_turn (show ['u', 's', 'e', '=', '['] = ['u', 's', 'e', '='] ++ ['['] from rfl)
      (solid_of_all _ (by decide)) ps
  obtain ⟨target, rest₂, htarget, hkept₂⟩ := target_turn rest₁
  obtain ⟨args, left, hargs, hsameArgs, -⟩ :=
    bracketed_turn
      (show ['a', 'r', 'g', 's', '=', '['] = ['a', 'r', 'g', 's', '='] ++ ['['] from rfl)
      (solid_of_all _ (by decide)) rest₂
  have hsides : ∀ second, uses.map (side second) = uses.map (side false) := by
    intro second
    cases uses with
    | none => rfl
    | some inner => exact congrArg some (hsame h inner rfl second)
  refine ⟨uses.map (side false), target, args, left, fun second => ?_, fun hclosed => ?_⟩
  · rw [found, huses]
    simp only [htarget, hargs, hsides]
  · rw [severs, Bool.or_eq_false_iff, huses] at hclosed
    exact hsameArgs (hkept₂ (hkept₁ h hclosed.1) hclosed.2)

/-! ## Arguments -/

/-- A text with single spaces between its words. -/
def plain (t : Text) : Text := join [' '] (words t)

/-- An argument with single spaces between the words of its key and of its value. -/
def plainArg (arg : Text × Text) : Text × Text := (plain arg.1, plain arg.2)

theorem plain_side (second : Bool) (ps : List Stretch) :
    plain (side second ps) = plain (side false ps) := congrArg (join [' ']) (words_side second ps)

/-- Arguments are the same on both sides, but for the white space between their words. -/
theorem argsOf_side (second : Bool) (ps : List Stretch) :
    (argsOf (side second ps)).map plainArg = (argsOf (side false ps)).map plainArg := by
  have harg : ∀ part, (argOf? (side second part)).map plainArg =
      (argOf? (side false part)).map plainArg := by
    intro part
    rcases cut_side (show isBlank '=' = false by decide) part with
      hnone | ⟨key, value, rfl, -, hcut⟩
    · rw [argOf?, argOf?]
      simp only [hnone]
    · have hempty : ∀ second, (side second (trimmed key)).isEmpty = (trimmed key).isEmpty := by
        intro second
        rw [Bool.eq_iff_iff, List.isEmpty_iff, List.isEmpty_iff, side_eq_nil_iff]
      rw [argOf?, argOf?]
      simp only [hcut, trim_side, hempty]
      split_ifs
      · rfl
      · simp only [Option.map_some, plainArg, plain_side second]
  obtain ⟨parts, hparts⟩ := pieces_side (show isBlank ';' = false by decide) ps
  simp only [argsOf, hparts, List.filterMap_map, List.map_filterMap]
  exact List.filterMap_congr fun part _ => harg part

end Info

end Literate

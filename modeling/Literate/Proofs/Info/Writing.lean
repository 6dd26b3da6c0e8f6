import Mathlib
import Literate.Proofs.Info.Option
import Literate.Proofs.Marker
import Literate.Proofs.Text.Lines

/-!
# Info strings written and read back

The name and the options of an info string may stand in any order behind the language, with the
markers at the end.  Whatever is written so is read back, but for two things.  A name or a language
that is written like a marker and stands last is a marker.  And the word `export` with an equals sign
behind it is an option wherever it stands, so arguments that hold one are safe only behind the target.

* `Info.Part`, `Info.Options`: what is written behind the language.
* `Info.written`: an info string of its parts.
* `Info.turn_imports`, `Info.turn_target`, `Info.turn_args`: the three turns.
* `Info.find_written`, `Info.strip_written`: the markers.
* `Info.importsOf_importsText`, `Info.argsOf_argsText`: lists written and read back.
* `Info.parse_written`: the whole.
-/

namespace Literate

open Text

namespace Info

/-! ## What is written -/

/-- Imported names as written. -/
def importsText (names : List Text) : Text := join [',', ' '] names

/-- One argument as written. -/
def argText (arg : Text × Text) : Text := arg.1 ++ '=' :: arg.2

/-- Arguments as written. -/
def argsText (pairs : List (Text × Text)) : Text := join [';', ' '] (pairs.map argText)

/-- What stands behind the language, between single spaces. -/
inductive Part
  | name (word : Text)
  | target (path : Text)
  | imports (names : List Text)
  | args (pairs : List (Text × Text))
  deriving DecidableEq

/-- A part as written. -/
def Part.render : Part → Text
  | name word => word
  | target path => ['e', 'x', 'p', 'o', 'r', 't', '='] ++ path
  | imports names => ['u', 's', 'e', '=', '['] ++ (importsText names ++ [']'])
  | args pairs => ['a', 'r', 'g', 's', '=', '['] ++ (argsText pairs ++ [']'])

/-- An info string: the language, then the parts, then the markers, all between single spaces. -/
def written (language : Text) (ps : List Part) (ms : List Marker) : Text :=
  join [' '] (language :: (ps.map Part.render ++ ms.map Marker.render))

/-- Which parts are there. -/
structure Options where
  name : Option Text
  target : Option Text
  imports : Option (List Text)
  args : Option (List (Text × Text))

/-- The parts that are there, in one order. -/
def Options.parts (o : Options) : List Part :=
  o.name.toList.map .name ++ o.target.toList.map .target ++ o.imports.toList.map .imports ++
    o.args.toList.map .args

/-- What an info string with these options says. -/
def Options.info (o : Options) (language : Text) (ms : List Marker) : Info :=
  { language
    name := o.name
    target := o.target
    imports := o.imports.getD []
    args := o.args.getD []
    hiddenInDoc := ms.contains ⟨.doc, .bare⟩
    hiddenInSlides := ms.contains ⟨.slides, .bare⟩ }

/-! ## What can be written -/

/-- A text without brackets. -/
def Unbracketed (t : Text) : Prop := '[' ∉ t ∧ ']' ∉ t

instance (t : Text) : Decidable (Unbracketed t) := inferInstanceAs (Decidable (_ ∧ _))

/-- A word: some characters, none of them blank, an equals sign or a bracket. -/
@[mk_iff]
structure IsWord (w : Text) : Prop where
  nonempty : w ≠ []
  solid : ∀ c ∈ w, isBlank c = false
  noEquals : '=' ∉ w
  unbracketed : Unbracketed w

/-- The path of a target. -/
@[mk_iff]
structure IsTarget (path : Text) : Prop where
  nonempty : path ≠ []
  solid : ∀ c ∈ path, isBlank c = false
  unbracketed : Unbracketed path

/-- An imported name. -/
@[mk_iff]
structure IsImport (name : Text) : Prop where
  nonempty : name ≠ []
  trimmed : trim name = name
  noComma : ',' ∉ name
  unbracketed : Unbracketed name

/-- A key and its value. -/
@[mk_iff]
structure IsArg (arg : Text × Text) : Prop where
  nonempty : arg.1 ≠ []
  trimmed : trim arg.1 = arg.1 ∧ trim arg.2 = arg.2
  noEquals : '=' ∉ arg.1
  noSemicolon : ';' ∉ arg.1 ∧ ';' ∉ arg.2
  unbracketed : Unbracketed arg.1 ∧ Unbracketed arg.2

-- the instance that is found otherwise goes through all characters there are
instance (w : Text) : Decidable (IsWord w) :=
  haveI : Decidable (∀ c ∈ w, isBlank c = false) := List.decidableBAll _ w
  decidable_of_iff _ (isWord_iff w).symm

instance (path : Text) : Decidable (IsTarget path) :=
  haveI : Decidable (∀ c ∈ path, isBlank c = false) := List.decidableBAll _ path
  decidable_of_iff _ (isTarget_iff path).symm

instance (name : Text) : Decidable (IsImport name) := decidable_of_iff _ (isImport_iff name).symm

instance (arg : Text × Text) : Decidable (IsArg arg) := decidable_of_iff _ (isArg_iff arg).symm

/-- A part that can be written. -/
def Part.Proper : Part → Prop
  | name word => IsWord word
  | target path => IsTarget path
  | imports names => ∀ name ∈ names, IsImport name
  | args pairs => ∀ arg ∈ pairs, IsArg arg

instance : DecidablePred Part.Proper
  | .name word => inferInstanceAs (Decidable (IsWord word))
  | .target path => inferInstanceAs (Decidable (IsTarget path))
  | .imports names => inferInstanceAs (Decidable (∀ name ∈ names, IsImport name))
  | .args pairs => inferInstanceAs (Decidable (∀ arg ∈ pairs, IsArg arg))

/-- The name or the language, when it stands last before the markers. -/
def lastWord? (language : Text) (ps : List Part) : Option Text :=
  match ps.getLast? with
  | none => some language
  | some (.name word) => some word
  | some _ => none

/-- Arguments that could be read as a target stand behind one. -/
def Shielded (ps : List Part) : Prop :=
  ∀ front pairs back, ps = front ++ .args pairs :: back → NamesTarget (argsText pairs) →
    ∃ path, .target path ∈ front

/-! ## Texts of options -/

theorem Unbracketed.append {a b : Text} (ha : Unbracketed a) (hb : Unbracketed b) :
    Unbracketed (a ++ b) := by
  simp [Unbracketed, ha.1, ha.2, hb.1, hb.2]

theorem unbracketed_join {sep : Text} {ts : List Text} (hsep : Unbracketed sep)
    (hts : ∀ t ∈ ts, Unbracketed t) : Unbracketed (join sep ts) := by
  have hnot : ∀ c, c ∉ sep → (∀ t ∈ ts, c ∉ t) → c ∉ join sep ts := by
    intro c hsep hts hc
    rcases mem_join hc with hc | ⟨t, ht, hc⟩
    · exact hsep hc
    · exact hts t ht hc
  exact ⟨hnot _ hsep.1 fun t ht => (hts t ht).1, hnot _ hsep.2 fun t ht => (hts t ht).2⟩

theorem unbracketed_importsText {names : List Text} (h : ∀ name ∈ names, IsImport name) :
    Unbracketed (importsText names) :=
  unbracketed_join (by decide) fun name hname => (h name hname).unbracketed

theorem unbracketed_argsText {pairs : List (Text × Text)} (h : ∀ arg ∈ pairs, IsArg arg) :
    Unbracketed (argsText pairs) := by
  refine unbracketed_join (by decide) fun t ht => ?_
  obtain ⟨arg, harg, rfl⟩ := List.mem_map.mp ht
  obtain ⟨hkey, hvalue⟩ := (h arg harg).unbracketed
  exact hkey.append (.append (a := ['=']) (by decide) hvalue)

/-- Imported names are read back. -/
theorem importsOf_importsText {names : List Text} (h : ∀ name ∈ names, IsImport name) :
    importsOf (importsText names) = names := by
  cases names with
  | nil => rfl
  | cons name names =>
    obtain ⟨hname, hnames⟩ := List.forall_mem_cons.mp h
    have htrim : (names.map ([' '] ++ ·)).map trim = names := by
      rw [List.map_map]
      refine (List.map_congr_left fun u hu => ?_).trans (List.map_id names)
      exact (trim_blank_append isBlank_space u).trans (hnames u hu).trimmed
    rw [importsOf, importsText, pieces_join (by decide) hname.noComma fun u hu =>
      (hnames u hu).noComma, List.map_cons, htrim, hname.trimmed, List.filter_eq_self]
    intro u hu
    simpa using (h u hu).nonempty

theorem argOf?_argText {pad : Text} {arg : Text × Text} (hpad : ∀ c ∈ pad, c = ' ')
    (h : IsArg arg) : argOf? (pad ++ argText arg) = some arg := by
  have hequals : '=' ∉ pad ++ arg.1 := by
    intro hc
    rcases List.mem_append.mp hc with hc | hc
    · cases hpad _ hc
    · exact h.noEquals hc
  have hblank : ∀ c ∈ pad, isBlank c = true := fun c hc => hpad c hc ▸ (by decide)
  rw [argOf?, argText, ← List.append_assoc, cut_append hequals]
  simp [trim_blank_append hblank, h.trimmed, h.nonempty]

/-- Arguments are read back. -/
theorem argsOf_argsText {pairs : List (Text × Text)} (h : ∀ arg ∈ pairs, IsArg arg) :
    argsOf (argsText pairs) = pairs := by
  have hsemicolon : ∀ arg, IsArg arg → ';' ∉ argText arg := by
    intro arg harg
    simp [argText, harg.noSemicolon]
  cases pairs with
  | nil => rfl
  | cons arg pairs =>
    obtain ⟨harg, hpairs⟩ := List.forall_mem_cons.mp h
    have hrest : ((pairs.map argText).map ([' '] ++ ·)).filterMap argOf? = pairs := by
      rw [List.map_map, List.filterMap_map]
      refine (List.filterMap_congr fun a ha => ?_).trans List.filterMap_some
      exact argOf?_argText (by simp) (hpairs a ha)
    have hparts : ∀ t ∈ pairs.map argText, ';' ∉ t := by
      intro t ht
      obtain ⟨a, ha, rfl⟩ := List.mem_map.mp ht
      exact hsemicolon a (hpairs a ha)
    have hfirst : argOf? (argText arg) = some arg := by
      rw [← List.nil_append (argText arg)]
      exact argOf?_argText (by simp) harg
    rw [argsOf, argsText, List.map_cons, pieces_join (by decide) (hsemicolon arg harg) hparts,
      List.filterMap_cons_some hfirst, hrest]

/-! ## Parts -/

theorem trim_of_solid {w : Text} (h : ∀ c ∈ w, isBlank c = false) : trim w = w :=
  trim_eq_self_iff.mpr ⟨fun c hc => h c (List.mem_of_mem_head? hc), fun c hc =>
    h c (List.mem_reverse.mp (List.mem_of_mem_head? hc))⟩

namespace Part

variable {p : Part}

theorem solid_target {path : Text} (h : IsTarget path) :
    ∀ c ∈ (target path).render, isBlank c = false := by
  have hkey : ['e', 'x', 'p', 'o', 'r', 't', '='].all (!isBlank ·) = true := by decide
  exact List.forall_mem_append.mpr ⟨by simpa using hkey, h.solid⟩

/-- Parts are not empty and have no blanks at their ends. -/
theorem trim_render (hp : p.Proper) : trim p.render = p.render ∧ p.render ≠ [] := by
  have hbracketed : ∀ {c : Char} (key inner : Text), isBlank c = false →
      trim (c :: key ++ (inner ++ [']'])) = c :: key ++ (inner ++ [']']) := by
    intro c key inner hc
    refine trim_eq_self_iff.mpr ⟨startsSolid_cons hc _, ?_⟩
    rw [List.reverse_append, List.reverse_append]
    exact startsSolid_cons (by decide) _
  cases p with
  | name word => exact ⟨trim_of_solid hp.solid, hp.nonempty⟩
  | target path => exact ⟨trim_of_solid (solid_target hp), by simp [render]⟩
  | imports names => exact ⟨hbracketed _ _ (by decide), by simp [render]⟩
  | args pairs => exact ⟨hbracketed _ _ (by decide), by simp [render]⟩

theorem mild_render (hp : p.Proper) : Mild p.render := by
  have hcons : ∀ {c : Char} (t : Text), isBlank c = false ∧ c ≠ '=' → Mild (c :: t) := by
    intro c t hc
    simpa [Mild] using hc
  cases p with
  | name word =>
    intro c hc
    have hmem := List.mem_of_mem_head? hc
    exact ⟨hp.solid c hmem, fun heq => hp.noEquals (heq ▸ hmem)⟩
  | target path => exact hcons _ (by decide)
  | imports names => exact hcons _ (by decide)
  | args pairs => exact hcons _ (by decide)

/-- What is left of a part when the imports were cut out. -/
def afterImports : Part → Text
  | imports _ => []
  | p => p.render

/-- What is left of a part when the target was cut out too. -/
def afterTarget : Part → Text
  | imports _ => []
  | target _ => []
  | p => p.render

/-- What is left of a part when all options were cut out. -/
def afterArgs : Part → Text
  | name word => word
  | _ => []

def name? : Part → Option Text
  | name word => some word
  | _ => none

def target? : Part → Option Text
  | target path => some path
  | _ => none

def importsText? : Part → Option Text
  | imports names => some (importsText names)
  | _ => none

def argsText? : Part → Option Text
  | args pairs => some (argsText pairs)
  | _ => none

theorem mild_afterImports (hp : p.Proper) : Mild p.afterImports := by
  cases p with
  | imports names => simp [Mild, afterImports]
  | name | target | args => exact mild_render hp

theorem mild_afterTarget (hp : p.Proper) : Mild p.afterTarget := by
  cases p with
  | imports | target => simp [Mild, afterTarget]
  | name | args => exact mild_render hp

end Part

/-! ## The three turns -/

section

variable {ps : List Part} {a? : Option Text}

/-- The first turn cuts out the imports. -/
theorem turn_imports (hps : ∀ p ∈ ps, p.Proper)
    (hone : ps.filterMap Part.importsText? = a?.toList) :
    takeOption (bracketed? ['u', 's', 'e', '=', '[']) (spaced (ps.map Part.render)) =
      (a?, spaced (ps.map Part.afterImports)) := by
  refine takeOption_spaced rfl (bracketed?_cons (by decide)) hone
    (fun p hp => Part.mild_render (hps p hp)) (fun p _ => by cases p <;> rfl) ?_ ?_
  · intro p hp a ha rest _
    cases p with
    | imports names =>
      cases ha
      rw [Part.render, List.append_assoc, List.append_assoc]
      exact bracketed?_append (unbracketed_importsText (hps _ hp)).2 rest
    | name | target | args => cases ha
  · rintro front p back rfl - hnone
    have hp := hps p (by simp)
    cases p with
    | imports => cases hnone
    | name word => exact silent_bracketed? (by decide) (by decide) hp.unbracketed.1
    | target path =>
      refine silent_bracketed? (by decide) (by decide) ?_
      exact (Unbracketed.append (by decide) hp.unbracketed).1
    | args pairs =>
      -- the bracket of the arguments opens behind another key
      refine .append_left
        (fun c hc => bracketed?_cons (ne_of_mem_of_not_mem hc (by decide)))
        (silent_bracketed? (by decide) (by decide) ?_)
      simp [(unbracketed_argsText hp).1]

theorem not_namesTarget_of_notMem {t : Text} (h : '=' ∉ t) : ¬NamesTarget t := by
  rintro ⟨front, bs, back, -, rfl⟩
  exact h (by simp)

/-- A bracket behind a text does not make a target of it. -/
theorem NamesTarget.of_concat {t : Text} (h : NamesTarget (t ++ [']'])) : NamesTarget t := by
  obtain ⟨front, bs, back, hblank, heq⟩ := h
  rcases List.eq_nil_or_concat' back with rfl | ⟨back, c, rfl⟩
  · have hlast := congrArg List.getLast? heq
    rw [← List.append_assoc, ← List.append_assoc, List.getLast?_concat, List.getLast?_concat] at hlast
    cases hlast
  · refine ⟨front, bs, back, hblank, ?_⟩
    simp only [← List.cons_append, ← List.append_assoc] at heq ⊢
    exact (List.append_inj' heq rfl).1

/-- The second turn cuts out the target. -/
theorem turn_target (hps : ∀ p ∈ ps, p.Proper) (hone : ps.filterMap Part.target? = a?.toList)
    (hshielded : Shielded ps) :
    takeOption exported? (spaced (ps.map Part.afterImports)) =
      (a?, spaced (ps.map Part.afterTarget)) := by
  refine takeOption_spaced rfl (exported?_cons (by decide)) hone
    (fun p hp => Part.mild_afterImports (hps p hp)) (fun p _ => by cases p <;> rfl) ?_ ?_
  · intro p hp a ha rest hrest
    cases p with
    | target path =>
      obtain rfl : path = a := Option.some.inj ha
      obtain ⟨hne, hsolid, -⟩ := hps _ hp
      change exported? ((Part.target path).render ++ rest) = _
      rw [Part.render, List.append_assoc]
      exact exported?_append hne hsolid hrest
    | name | imports | args => cases ha
  · intro front p back hsplit hfront hnone
    have hp := hps p (by simp [hsplit])
    cases p with
    | target => cases hnone
    | name word => exact silent_exported? (not_namesTarget_of_notMem hp.noEquals)
    | imports => exact silent_exported? (not_namesTarget_of_notMem (by simp [Part.afterImports]))
    | args pairs =>
      have hnot : ¬NamesTarget (argsText pairs) := by
        intro hnames
        obtain ⟨path, hpath⟩ := hshielded front pairs back hsplit hnames
        cases List.filterMap_eq_nil_iff.mp hfront _ hpath
      exact .append_left (fun c hc => exported?_cons (ne_of_mem_of_not_mem hc (by decide)))
        (silent_exported? fun h => hnot h.of_concat)

/-- The third turn cuts out the arguments. -/
theorem turn_args (hps : ∀ p ∈ ps, p.Proper) (hone : ps.filterMap Part.argsText? = a?.toList) :
    takeOption (bracketed? ['a', 'r', 'g', 's', '=', '[']) (spaced (ps.map Part.afterTarget)) =
      (a?, spaced (ps.map Part.afterArgs)) := by
  refine takeOption_spaced rfl (bracketed?_cons (by decide)) hone
    (fun p hp => Part.mild_afterTarget (hps p hp)) (fun p _ => by cases p <;> rfl) ?_ ?_
  · intro p hp a ha rest _
    cases p with
    | args pairs =>
      cases ha
      change bracketed? _ ((Part.args pairs).render ++ rest) = _
      rw [Part.render, List.append_assoc, List.append_assoc]
      exact bracketed?_append (unbracketed_argsText (hps _ hp)).2 rest
    | name | target | imports => cases ha
  · rintro front p back rfl - hnone
    have hp := hps p (by simp)
    cases p with
    | args => cases hnone
    | name word => exact silent_bracketed? (by decide) (by decide) hp.unbracketed.1
    | target | imports => exact silent_bracketed? (by decide) (by decide) (by simp [Part.afterTarget])

/-- The name is what is left. -/
theorem words_afterArgs (hps : ∀ p ∈ ps, p.Proper) :
    words (spaced (ps.map Part.afterArgs)) = ps.filterMap Part.name? := by
  have hsolid : ∀ t ∈ ps.map Part.afterArgs, ∀ c ∈ t, isBlank c = false := by
    intro t ht
    obtain ⟨p, hp, rfl⟩ := List.mem_map.mp ht
    cases p with
    | name word => exact (hps _ hp).solid
    | target | imports | args => simp [Part.afterArgs]
  rw [words_spaced hsolid]
  clear hsolid
  induction ps with
  | nil => rfl
  | cons p ps ih =>
    obtain ⟨hp, hrest⟩ := List.forall_mem_cons.mp hps
    cases p with
    | name word => simpa [Part.afterArgs, Part.name?, hp.nonempty] using ih hrest
    | target | imports | args => exact ih hrest

end

/-! ## Any order -/

/-- An option that is there at most once does not depend on the order. -/
theorem filterMap_of_perm {α β : Type} {ps qs : List α} {option? : α → Option β} {b? : Option β}
    (h : ps.Perm qs) (hqs : qs.filterMap option? = b?.toList) :
    ps.filterMap option? = b?.toList := by
  have hperm := h.filterMap option?
  rw [hqs] at hperm
  cases b? with
  | none => exact hperm.eq_nil
  | some b => exact List.perm_singleton.mp hperm

/-- The options that parts hold. -/
structure Holds (ps : List Part) (o : Options) : Prop where
  name : ps.filterMap Part.name? = o.name.toList
  target : ps.filterMap Part.target? = o.target.toList
  imports : ps.filterMap Part.importsText? = (o.imports.map importsText).toList
  args : ps.filterMap Part.argsText? = (o.args.map argsText).toList

theorem holds_parts (o : Options) : Holds o.parts o := by
  obtain ⟨name, target, imports, args⟩ := o
  constructor <;> cases name <;> cases target <;> cases imports <;> cases args <;> rfl

theorem Holds.of_perm {ps : List Part} {o : Options} (h : ps.Perm o.parts) : Holds ps o :=
  have hparts := holds_parts o
  ⟨filterMap_of_perm h hparts.name, filterMap_of_perm h hparts.target,
    filterMap_of_perm h hparts.imports, filterMap_of_perm h hparts.args⟩

/-! ## Markers and language -/

section

variable {language : Text} {ps : List Part}

theorem written_eq (language : Text) (ps : List Part) (ms : List Marker) :
    written language ps ms = language ++ spaced (ps.map Part.render) ++
      (ms.map fun m => ([' '], m)).flatMap fun p => p.1 ++ p.2.render := by
  have hmarkers : spaced (ms.map Marker.render) =
      (ms.map fun m => ([' '], m)).flatMap fun p => p.1 ++ p.2.render := by
    rw [spaced, List.flatMap_map, List.flatMap_map]
  rw [written, join_space_cons, spaced_append, hmarkers, List.append_assoc]

theorem trim_parts (hlanguage : IsWord language) (hps : ∀ p ∈ ps, p.Proper) :
    trim (language ++ spaced (ps.map Part.render)) = language ++ spaced (ps.map Part.render) := by
  rw [← join_space_cons]
  refine trim_join fun t ht => ?_
  rcases List.mem_cons.mp ht with rfl | ht
  · exact ⟨trim_of_solid hlanguage.solid, hlanguage.nonempty⟩
  · obtain ⟨p, hp, rfl⟩ := List.mem_map.mp ht
    exact Part.trim_render (hps p hp)

/-- A part at the end of a text is no marker, unless it is a name written like one. -/
theorem find_append_part {p : Part} (hp : p.Proper)
    (hword : ∀ w ∈ p.name?, ∀ m : Marker, w ≠ m.render) {a : Text}
    (ha : ∀ c ∈ a.getLast?, isBlank c = true) : Marker.find (a ++ p.render) = [] := by
  have hbracket : ∀ m : Marker, ']' ∉ m.render := by
    rintro ⟨t, x⟩
    cases t <;> cases x <;> decide
  cases p with
  | name word => exact Marker.find_append_word ha hp.nonempty hp.solid (hword word rfl)
  | target path =>
    refine Marker.find_append_word ha (by simp [Part.render]) (Part.solid_target hp) ?_
    rintro ⟨t, x⟩ heq
    cases t <;> cases heq
  | imports names =>
    rw [Part.render, ← List.append_assoc, ← List.append_assoc]
    exact Marker.find_concat (by decide) hbracket _
  | args pairs =>
    rw [Part.render, ← List.append_assoc, ← List.append_assoc]
    exact Marker.find_concat (by decide) hbracket _

/-- The parts are no markers, unless the last of them is a word written like one. -/
theorem find_parts (hlanguage : IsWord language) (hps : ∀ p ∈ ps, p.Proper)
    (hlast : ∀ w ∈ lastWord? language ps, ∀ m : Marker, w ≠ m.render) :
    Marker.find (language ++ spaced (ps.map Part.render)) = [] := by
  rcases List.eq_nil_or_concat' ps with rfl | ⟨front, p, rfl⟩
  · have hfind := Marker.find_append_word (a := []) (by simp) hlanguage.nonempty hlanguage.solid
      (hlast language rfl)
    simpa [spaced] using hfind
  · have hsplit : language ++ spaced ((front ++ [p]).map Part.render) =
        language ++ spaced (front.map Part.render) ++ [' '] ++ p.render := by
      rw [List.map_append, spaced_append]
      simp [spaced]
    have hgap : ∀ c ∈ (language ++ spaced (front.map Part.render) ++ [' ']).getLast?,
        isBlank c = true := by
      rw [List.getLast?_concat]
      exact fun c hc => Option.some.inj hc ▸ (by decide)
    have hword : ∀ w ∈ p.name?, ∀ m : Marker, w ≠ m.render := by
      intro w hw
      refine hlast w ?_
      cases p with
      | name word => simpa [lastWord?, Part.name?] using hw
      | target | imports | args => cases hw
    rw [hsplit]
    exact find_append_part (hps p (by simp)) hword hgap

/-- Every marker is written behind a space. -/
theorem isBlank_of_mem_markers {ms : List Marker} :
    ∀ p ∈ ms.map fun m => ([' '], m), p.1 ≠ [] ∧ ∀ c ∈ p.1, isBlank c = true := by
  intro p hp
  obtain ⟨m, -, rfl⟩ := List.mem_map.mp hp
  exact ⟨by simp, isBlank_space⟩

theorem find_written (hlanguage : IsWord language) (hps : ∀ p ∈ ps, p.Proper)
    (hlast : ∀ w ∈ lastWord? language ps, ∀ m : Marker, w ≠ m.render) (ms : List Marker) :
    Marker.find (written language ps ms) = ms := by
  rw [written_eq, Marker.find_append_markers isBlank_of_mem_markers,
    find_parts hlanguage hps hlast]
  simp

theorem strip_written (hlanguage : IsWord language) (hps : ∀ p ∈ ps, p.Proper)
    (hlast : ∀ w ∈ lastWord? language ps, ∀ m : Marker, w ≠ m.render) (ms : List Marker) :
    Marker.strip (written language ps ms) = language ++ spaced (ps.map Part.render) := by
  rw [written_eq]
  exact Marker.strip_append_markers isBlank_of_mem_markers (find_parts hlanguage hps hlast)
    (trim_eq_self_iff.mp (trim_parts hlanguage hps)).2

/-- The language is cut off at the first space. -/
theorem exists_cut (hlanguage : IsWord language) (hps : ∀ p ∈ ps, p.Proper) :
    ∃ meta? bs, cut ' ' (language ++ spaced (ps.map Part.render)) = (language, meta?) ∧
      (∀ c ∈ bs, c = ' ') ∧ spaced (ps.map Part.render) = bs ++ trim (meta?.getD []) := by
  have hspace : ' ' ∉ language := fun hc => by cases hlanguage.solid _ hc
  cases ps with
  | nil => exact ⟨none, [], by simpa [spaced] using cut_of_notMem hspace, by simp, rfl⟩
  | cons p ps =>
    have htrim : trim (p.render ++ spaced (ps.map Part.render)) =
        p.render ++ spaced (ps.map Part.render) := by
      rw [← join_space_cons, ← List.map_cons]
      refine trim_join fun t ht => ?_
      obtain ⟨q, hq, rfl⟩ := List.mem_map.mp ht
      exact Part.trim_render (hps q hq)
    rw [List.map_cons, spaced_cons]
    refine ⟨_, [' '], cut_append hspace _, by simp, ?_⟩
    rw [Option.getD_some, htrim]
    rfl

end

/-- **Options do not interfere.**  An info string is written from a language, a name and options in
any order, and markers.  It is read back as exactly these, unless the language or the name stands
last and is written like a marker, or arguments with an equals sign behind the word `export` come
before the target or without one. -/
theorem parse_written {language : Text} {o : Options} {ps : List Part} (ms : List Marker)
    (hlanguage : IsWord language) (hps : ∀ p ∈ ps, p.Proper) (horder : ps.Perm o.parts)
    (hlast : ∀ w ∈ lastWord? language ps, ∀ m : Marker, w ≠ m.render) (hshielded : Shielded ps) :
    parse (written language ps ms) = o.info language ms := by
  have hholds := Holds.of_perm horder
  have hproper : ∀ p ∈ o.parts, p.Proper := fun p hp => hps p (horder.mem_iff.mpr hp)
  obtain ⟨meta?, bs, hcut, hbs, hmeta⟩ := exists_cut hlanguage hps
  have himports := turn_imports hps hholds.imports
  rw [hmeta] at himports
  obtain ⟨rest₁, hturn₁, hrest₁⟩ := takeOption_of_spaces (bracketed?_cons (by decide)) hbs himports
  have htarget := turn_target hps hholds.target hshielded
  rw [hrest₁] at htarget
  obtain ⟨rest₂, hturn₂, hrest₂⟩ := takeOption_of_spaces (exported?_cons (by decide)) hbs htarget
  have hargs := turn_args hps hholds.args
  rw [hrest₂] at hargs
  obtain ⟨rest₃, hturn₃, hrest₃⟩ := takeOption_of_spaces (bracketed?_cons (by decide)) hbs hargs
  have hname : (words rest₃).head? = o.name := by
    have hwords := words_afterArgs hps
    rw [hrest₃, words_blank_append (fun c hc => hbs c hc ▸ (by decide)), hholds.name] at hwords
    rw [hwords]
    cases o.name <;> rfl
  have hread : importsOf ((o.imports.map importsText).getD []) = o.imports.getD [] := by
    cases hnames : o.imports with
    | none => rfl
    | some names =>
      exact importsOf_importsText (hproper (.imports names) (by simp [Options.parts, hnames]))
  have hread' : argsOf ((o.args.map argsText).getD []) = o.args.getD [] := by
    cases hpairs : o.args with
    | none => rfl
    | some pairs =>
      exact argsOf_argsText (hproper (.args pairs) (by simp [Options.parts, hpairs]))
  simp only [parse, find_written hlanguage hps hlast, strip_written hlanguage hps hlast,
    trim_parts hlanguage hps, hcut, hturn₁, hturn₂, hturn₃, hname, hread, hread', Options.info]

/-- A name like a marker, an import and a target with equals signs, and arguments that would be read
as a target if they did not stand behind one. -/
theorem parse_written_behind_target :
    let language := "sh".toList
    let imports : List Text := ["lib one".toList, "export=b".toList]
    let pairs : List (Text × Text) :=
      [("export".toList, "x".toList), ("mode".toList, "a=b".toList), ("k".toList, [])]
    let o : Options := ⟨some "%".toList, some "=t".toList, some imports, some pairs⟩
    let ps : List Part := [.imports imports, .name "%".toList, .target "=t".toList, .args pairs]
    let ms : List Marker := [⟨.doc, .bare⟩, ⟨.slides, .paragraph⟩]
    IsWord language ∧ (∀ p ∈ ps, p.Proper) ∧ ps.Perm o.parts ∧
      (∀ w ∈ lastWord? language ps, ∀ m : Marker, w ≠ m.render) ∧ Shielded ps ∧
      written language ps ms =
        "sh use=[lib one, export=b] % export==t args=[export=x; mode=a=b; k=] % &p".toList ∧
      parse (written language ps ms) =
        ⟨language, some "%".toList, some "=t".toList, imports, pairs, true, false⟩ := by
  intro language imports pairs o ps ms
  have hlanguage : IsWord language := by decide +kernel
  have hps : ∀ p ∈ ps, p.Proper := by decide +kernel
  have horder : ps.Perm o.parts := by decide +kernel
  have hlast : ∀ w ∈ lastWord? language ps, ∀ m : Marker, w ≠ m.render := by
    intro w hw
    cases hw
  have hshielded : Shielded ps := by
    rintro front args back hsplit -
    refine ⟨"=t".toList, ?_⟩
    rcases front with _ | ⟨p₁, _ | ⟨p₂, _ | ⟨p₃, front⟩⟩⟩ <;> simp [ps] at hsplit
    simp [hsplit]
  exact ⟨hlanguage, hps, horder, hlast, hshielded, by decide +kernel,
    parse_written ms hlanguage hps horder hlast hshielded⟩

/-- A name that is written like a marker and stands last is a marker.  An argument with the key
`export` and no target in front of it is read as a target, and what is left of it as the name. -/
theorem parse_written_misread :
    let language := "sh".toList
    let marked : Options := ⟨some "%".toList, none, none, none⟩
    let exporting : Options := ⟨none, none, none, some [("export".toList, "x".toList)]⟩
    IsWord language ∧ (∀ p ∈ marked.parts, p.Proper) ∧ (∀ p ∈ exporting.parts, p.Proper) ∧
      written language marked.parts [] = "sh %".toList ∧
      parse "sh %".toList = ⟨language, none, none, [], [], true, false⟩ ∧
      parse "sh %".toList ≠ marked.info language [] ∧
      written language exporting.parts [] = "sh args=[export=x]".toList ∧
      parse "sh args=[export=x]".toList =
        ⟨language, some "args=[".toList, some "x]".toList, [], [], false, false⟩ ∧
      parse "sh args=[export=x]".toList ≠ exporting.info language [] := by
  decide +kernel

end Info

end Literate

import Mathlib
import Literate.Language.Registry
import Literate.Proofs.Text.Join
import Literate.Proofs.Text.Lines

/-!
# The wrappers of compiled languages

The wrappers of C and Rust put the body of a block between fixed lines and indent it.  The indentation
takes every line end for one: newlines, carriage returns, form feeds and the separators of other
alphabets.  The lines of the body are kept exactly when it holds newlines only; each other line end
becomes a newline or, as a carriage return before one or at the end, is dropped.

* `Template.newlines`: a text with every line end written as a newline.
* `Template.splitLines_append_newline`: the lines of an indented text are those of that text.
* `Template.splitLines_eq_pieces_iff`: the texts whose lines end at newlines only.
* `Template.indentText_wrapper`: how the body is indented.
* `Wrapper`: the fixed text around imports and body.
* `Language.assemble_wrapped`: the source of a block in a language with a wrapper.
-/

namespace Literate

open Text

namespace Template

/-! ## Line ends -/

/-- Every line end written as a newline. -/
def newlines : Text → Text
  | [] => []
  | '\r' :: '\n' :: r => '\n' :: newlines r
  | c :: r => (if isLineEnd c then '\n' else c) :: newlines r

theorem isLineEnd_newline : isLineEnd '\n' = true := by decide

theorem isLineEnd_return : isLineEnd '\r' = true := by decide

theorem splitLines_eq_nil_iff {t : Text} : splitLines t = [] ↔ t = [] := by
  fun_cases splitLines t <;> simp

/-- No line holds a line end. -/
theorem isLineEnd_of_mem_splitLines {t : Text} {l : Line} (hl : l ∈ splitLines t) {c : Char}
    (hc : c ∈ l) : isLineEnd c = false := by
  fun_induction splitLines t generalizing l with
  | case1 => cases hl
  | case2 r ih =>
    rcases List.mem_cons.mp hl with rfl | hl
    · cases hc
    · exact ih hl hc
  | case3 d r hnot hend ih =>
    rcases List.mem_cons.mp hl with rfl | hl
    · cases hc
    · exact ih hl hc
  | case4 d r hnot hend hnil ih =>
    rw [List.mem_singleton.mp hl, List.mem_singleton] at hc
    rw [hc]
    exact Bool.eq_false_of_not_eq_true hend
  | case5 d r hnot hend m ms hcons ih =>
    rcases List.mem_cons.mp hl with rfl | hl
    · rcases List.mem_cons.mp hc with rfl | hc
      · exact Bool.eq_false_of_not_eq_true hend
      · exact ih (by rw [hcons]; exact List.mem_cons_self) hc
    · exact ih (by rw [hcons]; exact List.mem_cons_of_mem m hl) hc

/-- The lines of a text that ends with its last line are the pieces between its line ends. -/
theorem splitLines_of_isWhole {t : Text} (h : IsWhole t) :
    splitLines t ++ [[]] = pieces '\n' (newlines t) := by
  fun_induction splitLines t with
  | case1 => rfl
  | case2 r ih =>
    have hr : IsWhole r := by
      cases r with
      | nil => exact .nil
      | cons c r => exact h.tail.tail
    rw [newlines, pieces, if_pos rfl, ← ih hr, List.cons_append]
  | case3 c r hnot hend ih =>
    have hr : IsWhole r := by
      cases r with
      | nil => exact .nil
      | cons d r => exact h.tail
    rw [newlines, if_pos hend, pieces, if_pos rfl, ← ih hr, List.cons_append]
    intro s hc hs
    exact hnot s hc hs
  | case4 c r hnot hend hnil ih =>
    -- the last character would be one that ends no line
    obtain rfl := splitLines_eq_nil_iff.mp hnil
    have hc : c = '\n' := by simpa [IsWhole] using h
    rw [hc] at hend
    exact absurd isLineEnd_newline hend
  | case5 c r hnot hend l ls hcons ih =>
    have hr : IsWhole r := by
      cases r with
      | nil => cases hcons
      | cons d r => exact h.tail
    have hc : c ≠ '\n' := by
      rintro rfl
      exact hend isLineEnd_newline
    have hpieces : pieces '\n' (newlines r) = l :: (ls ++ [[]]) := by
      rw [← ih hr, hcons, List.cons_append]
    rw [newlines, if_neg hend, pieces_cons hc hpieces, List.cons_append]
    intro s hc hs
    exact hnot s hc hs

/-- **The lines of an indented text**: what stands between its line ends and before the newline that
was put behind it. -/
theorem splitLines_append_newline (t : Text) :
    splitLines (t ++ ['\n']) ++ [[]] = pieces '\n' (newlines (t ++ ['\n'])) :=
  splitLines_of_isWhole (.append_newline t)

theorem newlines_eq_self {t : Text} (h : ∀ c ∈ t, isLineEnd c = true → c = '\n') :
    newlines t = t := by
  fun_induction newlines t with
  | case1 => rfl
  | case2 r ih => exact absurd (h '\r' (by simp) isLineEnd_return) (by decide)
  | case3 c r hnot ih =>
    rw [List.forall_mem_cons] at h
    rw [ih h.2]
    by_cases hend : isLineEnd c = true
    · rw [if_pos hend, h.1 hend]
    · rw [if_neg hend]

/-- **The texts whose lines end at newlines only**: those that hold no other line end. -/
theorem splitLines_eq_pieces_iff {t : Text} :
    splitLines (t ++ ['\n']) = pieces '\n' t ↔ ∀ c ∈ t, isLineEnd c = true → c = '\n' := by
  constructor
  · intro hlines c hc hend
    rw [← join_pieces '\n' t] at hc
    rcases mem_join hc with hsep | ⟨l, hl, hcl⟩
    · exact List.mem_singleton.mp hsep
    · rw [← hlines] at hl
      rw [isLineEnd_of_mem_splitLines hl hcl] at hend
      cases hend
  · intro honly
    have hself : newlines (t ++ ['\n']) = t ++ ['\n'] := by
      apply newlines_eq_self
      intro c hc
      rcases List.mem_append.mp hc with hc | hc
      · exact honly c hc
      · exact fun _ => List.mem_singleton.mp hc
    have hlines := splitLines_append_newline t
    rw [hself, pieces_concat] at hlines
    exact List.append_cancel_right hlines

/-! ## The indented body -/

/-- What stands before a line of the body. -/
def margin : Text := List.replicate 4 ' '

/-- The lines as the wrappers indent them: the first one always, the others when they are not empty. -/
def indented : List Line → List Line
  | [] => []
  | l :: ls => (margin ++ l) :: ls.map fun l => if l.isEmpty then l else margin ++ l

/-- The indentation that the wrappers ask for. -/
def wrapperIndent : Indent := ⟨margin, true, false⟩

/-- How the body is indented. -/
theorem indentText_wrapper (t : Text) :
    indentText wrapperIndent t = join ['\n'] (indented (splitLines (t ++ ['\n']))) := by
  unfold indentText
  cases splitLines (t ++ ['\n']) with
  | nil => rfl
  | cons l ls =>
    simp only [indented, wrapperIndent, join_cons, if_true, List.append_assoc, Bool.not_false,
      Bool.and_true]

/-- A line of the body and how it stands in the wrapper: after four spaces; an empty line may stand
without them. -/
def Shows (l m : Line) : Prop := m = margin ++ l ∨ (l = [] ∧ m = [])

theorem Shows.subset {l m : Line} (h : Shows l m) : l ⊆ m := by
  rcases h with rfl | ⟨rfl, rfl⟩
  · exact List.subset_append_right margin l
  · exact List.Subset.refl []

theorem exists_shows_of_mem {ls ms : List Line} (h : List.Forall₂ Shows ls ms) {l : Line}
    (hl : l ∈ ls) : ∃ m ∈ ms, Shows l m := by
  induction h with
  | nil => cases hl
  | cons hshows hrest ih =>
    rcases List.mem_cons.mp hl with rfl | hl
    · exact ⟨_, List.mem_cons_self, hshows⟩
    · obtain ⟨m, hm, hshows⟩ := ih hl
      exact ⟨m, List.mem_cons_of_mem _ hm, hshows⟩

/-- Each line stands in the wrapper once. -/
theorem forall₂_shows_indented (ls : List Line) : List.Forall₂ Shows ls (indented ls) := by
  cases ls with
  | nil => exact .nil
  | cons l ls =>
    refine .cons (.inl rfl) ?_
    rw [List.forall₂_map_right_iff, List.forall₂_same]
    intro m _
    unfold Shows
    split_ifs with hm
    · exact .inr ⟨List.isEmpty_iff.mp hm, List.isEmpty_iff.mp hm⟩
    · exact .inl rfl

theorem isLineEnd_of_mem_indented {ls : List Line}
    (h : ∀ l ∈ ls, ∀ c ∈ l, isLineEnd c = false) : ∀ m ∈ indented ls, ∀ c ∈ m, isLineEnd c = false := by
  have hmargin : ∀ l ∈ ls, ∀ c ∈ margin ++ l, isLineEnd c = false := by
    intro l hl c hc
    rcases List.mem_append.mp hc with hc | hc
    · rw [List.eq_of_mem_replicate hc]
      decide
    · exact h l hl c hc
  cases ls with
  | nil => exact fun m hm => nomatch hm
  | cons l ls =>
    intro m hm c hc
    rcases List.mem_cons.mp hm with rfl | hm
    · exact hmargin l (by simp) c hc
    · obtain ⟨k, hk, rfl⟩ := List.mem_map.mp hm
      split_ifs at hc
      · exact h k (by simp [hk]) c hc
      · exact hmargin k (by simp [hk]) c hc

end Template

/-! ## The wrappers -/

/-- The fixed text of a wrapper. -/
structure Wrapper where
  /-- Before the imports. -/
  before : Text
  /-- Between the imports and the body. -/
  between : Text
  /-- After the body. -/
  after : Text

namespace Wrapper

/-- The wrapper of C. -/
def c : Wrapper where
  before := "#include <stdio.h>\n#include <stdlib.h>\n#include <string.h>\n\n".toList
  between := "\n\nint main(void) \x7b\n".toList
  after := "\n    return 0;\n\x7d\n".toList

/-- The wrapper of Rust. -/
def rust : Wrapper where
  before := []
  between := "\n\nfn main() \x7b\n".toList
  after := "\n\x7d\n".toList

/-- The wrappers by the names of their languages. -/
def byName : List (Text × Wrapper) := [("c".toList, c), ("rust".toList, rust)]

/-- The wrapper around imports and the lines of a body. -/
def around (w : Wrapper) (imports : Text) (ls : List Line) : Text :=
  w.before ++ imports ++ w.between ++ join ['\n'] ls ++ w.after

/-- The template of a wrapper, read. -/
def parts (w : Wrapper) : List TemplatePart :=
  (if w.before.isEmpty then [] else [.text w.before]) ++
    [.value ⟨"imports".toList, [], []⟩, .text w.between,
      .value ⟨"body".toList, [], [Template.wrapperIndent]⟩, .text w.after]

theorem parse_cTemplate : Template.parse Language.cTemplate = .ok c.parts := by decide +kernel

theorem parse_rustTemplate : Template.parse Language.rustTemplate = .ok rust.parts := by
  decide +kernel

/-- A template that reads as a wrapper, filled. -/
theorem render_of_parse {t : Text} {w : Wrapper} (h : Template.parse t = .ok w.parts)
    (imports body : Text) (args : List (Text × Text)) :
    Template.render t [("imports".toList, .text imports), ("body".toList, .text body),
        ("args".toList, .map args)] =
      .ok (w.around imports (Template.indented (Template.splitLines (body ++ ['\n'])))) := by
  have hparts : w.parts.mapM (Template.renderPart [("imports".toList, .text imports),
      ("body".toList, .text body), ("args".toList, .map args)]) =
        .ok ((if w.before.isEmpty then [] else [w.before]) ++
          [imports, w.between, Template.indentText Template.wrapperIndent body, w.after]) := by
    unfold parts
    split_ifs <;> rfl
  unfold Template.render around
  rw [h]
  show Except.map List.flatten (w.parts.mapM _) = _
  rw [hparts, ← Template.indentText_wrapper]
  by_cases hbefore : w.before.isEmpty
  · rw [if_pos hbefore, List.isEmpty_iff.mp hbefore]
    simp [Except.map]
  · rw [if_neg hbefore]
    simp [Except.map]

theorem around_inj {w : Wrapper} {imports : Text} {ls ms : List Line}
    (h : w.around imports ls = w.around imports ms) : join ['\n'] ls = join ['\n'] ms := by
  unfold around at h
  exact List.append_cancel_left (List.append_cancel_right h)

end Wrapper

namespace Language

open Template (splitLines newlines indented isLineEnd Shows)

/-- A language with a wrapper has the template of that wrapper. -/
theorem exists_template_of_mem_builtin {python : String} {l : Language} (hl : l ∈ builtin python)
    {w : Wrapper} (hw : Wrapper.byName.lookup l.name = some w) :
    ∃ t, l.template = some t ∧ t ≠ [] ∧ Template.parse t = .ok w.parts := by
  have hnot : ∀ {name program extension : String}, l = simple name program extension →
      Wrapper.byName.lookup name.toList ≠ none := by
    rintro name program extension rfl hnone
    rw [show (simple name program extension).name = name.toList from rfl, hnone] at hw
    cases hw
  unfold builtin at hl
  simp only [List.mem_cons, List.not_mem_nil, or_false] at hl
  rcases hl with h | h | h | h | h | h | rfl | rfl | h | h | h
  case inr.inr.inr.inr.inr.inr.inl =>
    obtain rfl : Wrapper.c = w := Option.some.inj hw
    exact ⟨_, rfl, (by decide +kernel), Wrapper.parse_cTemplate⟩
  case inr.inr.inr.inr.inr.inr.inr.inl =>
    obtain rfl : Wrapper.rust = w := Option.some.inj hw
    exact ⟨_, rfl, (by decide +kernel), Wrapper.parse_rustTemplate⟩
  all_goals exact absurd (by decide) (hnot h)

/-- The source of a block in a language with a wrapper. -/
theorem assemble_of_wrapper {python : String} {l : Language} (hl : l ∈ builtin python)
    {w : Wrapper} (hw : Wrapper.byName.lookup l.name = some w) (body imports : Text)
    (args : List (Text × Text)) :
    l.assemble body imports args =
      .ok (w.around imports (indented (splitLines (body ++ ['\n'])))) := by
  obtain ⟨t, htemplate, hne, hparse⟩ := exists_template_of_mem_builtin hl hw
  obtain ⟨c, t, rfl⟩ := List.exists_cons_of_ne_nil hne
  unfold assemble
  simp only [htemplate]
  rw [Wrapper.render_of_parse hparse]

/-- The source shows the lines of the body, those between its newlines, in order: each after four
spaces, an empty one perhaps without them. -/
def ShowsLines (l : Language) (w : Wrapper) (body imports : Text) (args : List (Text × Text)) :
    Prop :=
  ∃ ls, List.Forall₂ Shows (pieces '\n' body) ls ∧
    l.assemble body imports args = .ok (w.around imports ls)

/-- The lines are shown when newlines alone end them. -/
theorem showsLines_iff {python : String} {l : Language} (hl : l ∈ builtin python)
    {w : Wrapper} (hw : Wrapper.byName.lookup l.name = some w) (body imports : Text)
    (args : List (Text × Text)) :
    l.ShowsLines w body imports args ↔ ∀ c ∈ body, isLineEnd c = true → c = '\n' := by
  constructor
  · rintro ⟨ls, hls, hsource⟩ c hc hend
    rw [assemble_of_wrapper hl hw, Except.ok.injEq] at hsource
    rw [← join_pieces '\n' body] at hc
    rcases mem_join hc with hnewline | ⟨p, hp, hcp⟩
    · exact List.mem_singleton.mp hnewline
    · -- it would stand in a line of the source, and those hold no line end
      obtain ⟨m, hm, hshows⟩ := Template.exists_shows_of_mem hls hp
      have hjoin := mem_join_of_mem ['\n'] hm (hshows.subset hcp)
      rw [← Wrapper.around_inj hsource] at hjoin
      rcases mem_join hjoin with hnewline | ⟨k, hk, hck⟩
      · exact List.mem_singleton.mp hnewline
      · have hnot := Template.isLineEnd_of_mem_indented
          (fun l hl c => Template.isLineEnd_of_mem_splitLines hl) k hk c hck
        rw [hend] at hnot
        cases hnot
  · intro honly
    refine ⟨_, Template.forall₂_shows_indented _, ?_⟩
    rw [assemble_of_wrapper hl hw, Template.splitLines_eq_pieces_iff.mpr honly]

/-- **The source of a block in C or Rust**: between the fixed lines stand the imports and the lines of
the body, indented.  Those are what stands between the line ends of the body, of whatever kind, and
before a newline at its end.  So the lines between its newlines are kept exactly when it holds no
other line end. -/
theorem assemble_wrapped {python : String} {l : Language} (hl : l ∈ builtin python)
    {w : Wrapper} (hw : Wrapper.byName.lookup l.name = some w) (body imports : Text)
    (args : List (Text × Text)) :
    (∃ ls, ls ++ [[]] = pieces '\n' (newlines (body ++ ['\n'])) ∧
        l.assemble body imports args = .ok (w.around imports (indented ls)) ∧
        List.Forall₂ Shows ls (indented ls)) ∧
      (l.ShowsLines w body imports args ↔ ∀ c ∈ body, isLineEnd c = true → c = '\n') :=
  ⟨⟨_, Template.splitLines_append_newline body, assemble_of_wrapper hl hw body imports args,
    Template.forall₂_shows_indented _⟩, showsLines_iff hl hw body imports args⟩

/-- A body with an empty line is shown line by line; of one with a line separator and carriage returns
other lines are shown. -/
theorem assemble_wrapped_separators :
    let l := compiled "rust" "rustc" "rs" rustTemplate
    let imports := "use a;".toList
    l ∈ builtin "python" ∧ Wrapper.byName.lookup l.name = some Wrapper.rust ∧
      l.assemble "a\n\n  b".toList imports [] =
        .ok "use a;\n\nfn main() \x7b\n    a\n\n      b\n\x7d\n".toList ∧
      l.ShowsLines Wrapper.rust "a\n\n  b".toList imports [] ∧
      l.assemble "\na\r\nb\u2028c\r".toList imports [] =
        .ok "use a;\n\nfn main() \x7b\n    \n    a\n    b\n    c\n\x7d\n".toList ∧
      ¬l.ShowsLines Wrapper.rust "\na\r\nb\u2028c\r".toList imports [] := by
  intro l imports
  have hl : l ∈ builtin "python" := by
    unfold builtin
    simp only [List.mem_cons, l, true_or, or_true]
  have hw : Wrapper.byName.lookup l.name = some Wrapper.rust := rfl
  obtain ⟨⟨ls, hls, hsource, -⟩, hshows⟩ := assemble_wrapped hl hw "a\n\n  b".toList imports []
  obtain ⟨⟨ls', hls', hsource', -⟩, hshows'⟩ :=
    assemble_wrapped hl hw "\na\r\nb\u2028c\r".toList imports []
  obtain rfl : ls = [['a'], [], [' ', ' ', 'b']] :=
    List.append_cancel_right (hls.trans (by decide +kernel))
  obtain rfl : ls' = [[], ['a'], ['b'], ['c']] :=
    List.append_cancel_right (hls'.trans (by decide +kernel))
  have hplain : ∀ c ∈ "a\n\n  b".toList, isLineEnd c = true → c = '\n' := by
    intro c hc hend
    have hall : "a\n\n  b".toList.all fun c => !isLineEnd c || c == '\n' := by decide
    simpa [hend] using List.all_eq_true.mp hall c hc
  refine ⟨hl, hw, hsource.trans (by decide +kernel), hshows.mpr hplain,
    hsource'.trans (by decide +kernel), fun h => ?_⟩
  exact absurd (hshows'.mp h '\r' (by decide) Template.isLineEnd_return) (by decide)

/-- A form feed within a line ends it. -/
theorem assemble_wrapped_form_feed :
    let l := compiled "c" "cc" "c" cTemplate
    let w := Wrapper.c
    l.assemble "a\x0cb".toList [] [] = .ok (w.around [] ["    a".toList, "    b".toList]) ∧
      ¬ ∀ body imports args, l.ShowsLines w body imports args := by
  intro l w
  have hl : l ∈ builtin "python" := by
    unfold builtin
    simp only [List.mem_cons, l, true_or, or_true]
  have hw : Wrapper.byName.lookup l.name = some w := rfl
  refine ⟨?_, fun hclaim => ?_⟩
  · rw [assemble_of_wrapper hl hw]
    decide +kernel
  · have honly := (showsLines_iff hl hw _ _ _).mp (hclaim "a\x0cb".toList [] [])
    exact absurd (honly '\x0c' (by decide) (by decide)) (by decide)

end Language

end Literate

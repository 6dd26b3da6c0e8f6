import Mathlib
import Literate.Proofs.Macro.Expansion
import Literate.Proofs.Text.Join

/-!
# Blocks that are one reference

A block whose body is nothing but a reference to another block has the source of that block.  This
goes for names of the characters that a reference may hold.  The name of a block may hold any other
character that is not blank; a reference to such a name is written and not read.  It stays as it is,
unless a shorter reference stands in it.  Imports have no such limit.

* `Outline.refersTo_iff_isName`: a block refers to the name its body is a reference to exactly when
  that name can be referred to.
* `Outline.standsFor_iff_of_lone`: then both names stand for the same text.
* `Reference.names_written_eq_nil`: a reference in which no reference stands.
* `Expander.eval_imports_eq_ok_iff`: an import is what its name stands for.
* `expandBlock_lone`: what the block is expanded to.
-/

namespace Literate

open Text

/-! ## References in a reference -/

namespace Reference

variable {v : Text}

/-- A written reference is read as one to its name exactly when the name can be referred to. -/
theorem mem_names_written_iff : v ∈ names (written v) ↔ IsName v := by
  rw [mem_names_iff]
  exact and_iff_left ⟨[], [], by simp⟩

/-- No reference stands in one to a name that cannot be referred to, when the name holds neither the
first nor the last character of a reference. -/
theorem names_written_eq_nil (hv : ¬IsName v) (hbracket : ']' ∉ v) (hat : '@' ∉ v) :
    names (written v) = [] := by
  refine List.eq_nil_iff_forall_not_mem.mpr fun w hw => ?_
  obtain ⟨hname, before, after, h⟩ := mem_names_iff.mp hw
  rw [List.append_assoc] at h
  cases before with
  | nil =>
    -- it would end at the bracket of the whole
    have hsplit : v ++ [']'] = w ++ ']' :: after := by simpa [written] using h
    rcases List.append_eq_append_iff.mp hsplit with ⟨c, hc, htail⟩ | ⟨c, hc, htail⟩
    · have hlength := congrArg List.length htail
      cases c with
      | nil => exact hv (by simpa [hc] using hname)
      | cons d c => simp at hlength
    · cases c with
      | nil => exact hv (by simpa [hc] using hname)
      | cons d c =>
        obtain ⟨rfl, -⟩ := List.cons.inj htail
        exact hbracket (by rw [hc]; simp)
  | cons d before =>
    -- it would start behind the first character of the whole
    have hmem : '@' ∈ '[' :: (v ++ [']']) := by
      rw [(List.cons.inj h).2]
      simp [written]
    exact hat (by simpa using hmem)

end Reference

/-! ## A body that is one reference -/

namespace Macro

open Reference

variable {σ : Text → Text} {v : Text}

theorem indentLines_nil (ls : List Line) : indentLines [] ls = ls := by
  unfold indentLines
  simp

theorem appendLast_nil {ls : List Line} (h : ls ≠ []) : appendLast [] ls = ls := by
  induction ls with
  | nil => exact absurd rfl h
  | cons l ls ih =>
    cases ls with
    | nil => simp [appendLast]
    | cons m ls => rw [appendLast, ih (by simp)]

/-- What the name stands for takes the place of the reference. -/
theorem substituteBody_written (hv : IsName v) : substituteBody σ [written v] = σ v := by
  have hfirst : first? (written v) = some ([], v, []) := by
    simpa using first?_written hv []
  have hne : pieces '\n' (σ v) ≠ [] := by
    obtain ⟨p, ps, hp⟩ := exists_pieces_eq_cons '\n' (σ v)
    simp [hp]
  have hrest : spliced σ [] = [] := by simp [spliced]
  have hblank : allBlank [] = true := rfl
  have hline : substituteLine σ (written v) = pieces '\n' (σ v) := by
    rw [substituteLine, hfirst]
    dsimp only
    rw [if_pos hblank, hrest, indentLines_nil, appendLast_nil hne]
  rw [substituteBody, List.flatMap_singleton, hline, join_pieces]

/-- A body without references stays. -/
theorem substituteBody_of_names_eq_nil {l : Line} (h : names l = []) :
    substituteBody σ [l] = l := by
  have hnone : first? l = none := by
    cases hfirst : first? l with
    | none => rfl
    | some p =>
      have hsegments := (segments_of_first? l).2 _ _ _ hfirst
      rw [names, hsegments] at h
      cases h
  rw [substituteBody, List.flatMap_singleton, substituteLine, hnone]
  simp [join]

end Macro

namespace Outline

open Reference

variable {o : Outline} {a b : Text} {x : Block}

/-- A block whose body is one reference refers to the names that are read in it. -/
theorem refersTo_iff_of_lone (hx : o.findBlock? a = some x) (hbody : x.body = [written b])
    {v : Text} : o.RefersTo a v ↔ v ∈ names (written b) := by
  rw [refersTo_iff hx, hbody]
  simp

/-- It refers to the name it is written to exactly when that can be referred to. -/
theorem refersTo_iff_isName (hx : o.findBlock? a = some x) (hbody : x.body = [written b]) :
    o.RefersTo a b ↔ IsName b := by
  rw [refersTo_iff_of_lone hx hbody, mem_names_written_iff]

/-- Then both names stand for the same text. -/
theorem standsFor_iff_of_lone (hx : o.findBlock? a = some x) (hbody : x.body = [written b])
    (hb : IsName b) {r : Text} : o.StandsFor a r ↔ o.StandsFor b r := by
  have hrefers := (refersTo_iff_isName hx hbody).mpr hb
  have honly : ∀ v, o.RefersTo a v → v = b := by
    intro v hv
    have hread : names (written b) = [b] := by
      have hsegments := segments_written hb []
      rw [List.append_nil] at hsegments
      rw [names, hsegments]
      rfl
    rw [refersTo_iff_of_lone hx hbody, hread] at hv
    exact List.mem_singleton.mp hv
  constructor
  · rintro ⟨σ, hx', hσ⟩
    obtain rfl := Option.some.inj (hx.symm.trans hx')
    rw [hbody, Macro.substituteBody_written hb]
    exact hσ b hrefers
  · intro hr
    have hsource := StandsFor.intro (fun _ => r) hx fun v hv => (honly v hv).symm ▸ hr
    rwa [hbody, Macro.substituteBody_written hb] at hsource

/-- A block in which no reference is read stands for its body. -/
theorem standsFor_of_names_eq_nil (hx : o.findBlock? a = some x) (hbody : x.body = [written b])
    (hnames : names (written b) = []) : o.StandsFor a (written b) := by
  have hsource := StandsFor.intro (fun _ => []) hx fun v hv => by
    rw [refersTo_iff_of_lone hx hbody, hnames] at hv
    cases hv
  rwa [hbody, Macro.substituteBody_of_names_eq_nil hnames] at hsource

end Outline

/-! ## Expansion -/

/-- The source of the first block of a name is there, and is what the name stands for, or there is an
error of the expansion. -/
theorem expandBlock_cases {t n : Text} {o : Outline} {x : Block} (ho : Outline.parse t = .ok o)
    (hx : o.findBlock? n = some x) :
    (∃ r, o.StandsFor n r ∧ expandBlock t n = .ok r) ∨
      (∀ r, ¬o.StandsFor n r) ∧ ∃ e, expandBlock t n = .error (.expansion e) := by
  obtain ⟨-, hok, herror⟩ := Expander.block_meets hx [] Expander.sound_nil
  cases heval : (Expander.block o x).eval with
  | ok r => exact .inl ⟨r, hok r heval, by simp only [expandBlock, ho, hx, heval]⟩
  | error e =>
    refine .inr ⟨fun r hr => ?_, e, by simp only [expandBlock, ho, hx, heval]⟩
    exact (herror e heval).fault.not_expandable hr.expandable

theorem expandBlock_eq_ok_iff {t n : Text} {o : Outline} {x : Block} (ho : Outline.parse t = .ok o)
    (hx : o.findBlock? n = some x) {r : Text} : expandBlock t n = .ok r ↔ o.StandsFor n r := by
  rcases expandBlock_cases ho hx with ⟨r', hstands, hok⟩ | ⟨hnot, e, herror⟩
  · rw [hok]
    exact ⟨fun h => Except.ok.inj h ▸ hstands, fun h => congrArg _ (hstands.unique h)⟩
  · rw [herror]
    exact iff_of_false nofun (hnot r)

namespace Expander

variable {o : Outline}

theorem expandable_of_forall₂ {ns ts : List Text} (h : List.Forall₂ o.StandsFor ns ts) :
    ∀ n ∈ ns, o.Expandable n := by
  induction h with
  | nil => simp
  | cons hn _ ih => exact List.forall_mem_cons.mpr ⟨hn.expandable, ih⟩

/-- **Imports** are what their names stand for, one after the other, whatever characters the names
hold. -/
theorem eval_imports_eq_ok_iff {ns : List Text} {r : Text} :
    (imports o ns).eval = .ok r ↔ ∃ ts, List.Forall₂ o.StandsFor ns ts ∧ join ['\n'] ts = r := by
  have hname : ∀ n ∈ ns, Meets o (name o (Substitution.depth o) [] n) (o.StandsFor n)
      fun _ => ∃ n ∈ ns, ¬o.Expandable n := by
    intro n hn
    have hroom : o.blocks.length < ([] : List Text).length + Substitution.depth o := by
      rw [Substitution.depth, List.length_nil]
      omega
    refine (name_meets _ [] n ⟨by simp, by simp⟩ (.singleton n) hroom).imp (fun _ ht => ht) ?_
    exact fun e he => ⟨n, hn, (Blames.fault he).not_expandable⟩
  have hmeets : Meets o (imports o ns) (fun r => ∃ ts, List.Forall₂ o.StandsFor ns ts ∧
      join ['\n'] ts = r) fun _ => ∃ n ∈ ns, ¬o.Expandable n :=
    (Meets.mapM hname).bind fun ts hts => .pure ⟨ts, hts, rfl⟩
  obtain ⟨-, hok, herror⟩ := hmeets [] sound_nil
  refine ⟨hok r, ?_⟩
  rintro ⟨ts, hts, rfl⟩
  cases heval : (imports o ns).eval with
  | ok r =>
    obtain ⟨us, hus, rfl⟩ := hok r heval
    -- a name stands for one text
    have huniq : Relator.RightUnique o.StandsFor := fun _ _ _ h h' => h.unique h'
    rw [List.right_unique_forall₂' huniq hus hts]
  | error e =>
    obtain ⟨n, hn, hnot⟩ := herror e heval
    exact absurd (expandable_of_forall₂ hts n hn) hnot

end Expander

/-- **A block that is one reference** to the first block of another name.  It refers to that name
exactly when the name consists of the characters that a reference may hold.  Then both blocks have
the same source, or both fail.  Otherwise a reference in which no other one stands is left as it is:
that goes for every name with neither of the characters a reference starts and ends with.  Where a
block imports it, every name is expanded. -/
theorem expandBlock_lone {t a b : Text} {o : Outline} {x y : Block} (ho : Outline.parse t = .ok o)
    (hx : o.findBlock? a = some x) (hbody : x.body = [Reference.written b])
    (hy : o.findBlock? b = some y) :
    (o.RefersTo a b ↔ Reference.IsName b) ∧
      (Reference.IsName b →
        (∃ r, expandBlock t a = .ok r ∧ expandBlock t b = .ok r) ∨
          (∃ e, expandBlock t a = .error (.expansion e)) ∧
            ∃ e, expandBlock t b = .error (.expansion e)) ∧
      (Reference.names (Reference.written b) = [] →
        expandBlock t a = .ok (Reference.written b)) ∧
      (¬Reference.IsName b → ']' ∉ b → '@' ∉ b → Reference.names (Reference.written b) = []) ∧
      ∀ r, (Expander.imports o [b]).eval = .ok r ↔ expandBlock t b = .ok r := by
  refine ⟨Outline.refersTo_iff_isName hx hbody, fun hb => ?_, fun hnames => ?_,
    Reference.names_written_eq_nil, fun r => ?_⟩
  · have hiff := fun r => Outline.standsFor_iff_of_lone hx hbody hb (r := r)
    rcases expandBlock_cases ho hx with ⟨r, hstands, hok⟩ | ⟨hnot, e, herror⟩
    · exact .inl ⟨r, hok, (expandBlock_eq_ok_iff ho hy).mpr ((hiff r).mp hstands)⟩
    · rcases expandBlock_cases ho hy with ⟨r, hstands, -⟩ | ⟨-, e', herror'⟩
      · exact absurd ((hiff r).mpr hstands) (hnot r)
      · exact .inr ⟨⟨e, herror⟩, e', herror'⟩
  · exact (expandBlock_eq_ok_iff ho hx).mpr (Outline.standsFor_of_names_eq_nil hx hbody hnames)
  · rw [Expander.eval_imports_eq_ok_iff, expandBlock_eq_ok_iff ho hy]
    constructor
    · rintro ⟨ts, hts, rfl⟩
      cases hts with
      | cons hb hnil =>
        cases hnil
        simpa [join] using hb
    · intro hb
      exact ⟨[r], .cons hb .nil, by simp [join]⟩

/-- A name with a point and a digit is referred to; one with letters beyond ASCII is not, but a block
can import it. -/
theorem expandBlock_lone_letters :
    let t := ("```sh one\n@[part.2]\n```\n\n```sh two\n@[größe]\n```\n\n" ++
      "```sh part.2\nx\ny\n```\n\n```sh größe\nz\n```\n").toList
    let block (start height : ℕ) (name : String) (body : List Line) : Block :=
      ⟨start, start + height, "```".toList,
        ⟨"sh".toList, some name.toList, none, [], [], false, false⟩, body⟩
    let one := block 1 2 "one" ["@[part.2]".toList]
    let two := block 5 2 "two" ["@[größe]".toList]
    let part := block 9 3 "part.2" [['x'], ['y']]
    let size := block 14 2 "größe" [['z']]
    let o : Outline :=
      ⟨16, [.block one, .block two, .block part, .block size], [⟨1, [], .implicit⟩]⟩
    Outline.parse t = .ok o ∧
      expandBlock t "one".toList = .ok "x\ny".toList ∧
      expandBlock t "part.2".toList = .ok "x\ny".toList ∧
      o.RefersTo "one".toList "part.2".toList ∧
      expandBlock t "two".toList = .ok "@[größe]".toList ∧
      ¬o.RefersTo "two".toList "größe".toList ∧
      (Expander.imports o ["größe".toList]).eval = .ok ['z'] := by
  intro t block one two part size o
  have ho : Outline.parse t = .ok o := by decide +kernel
  have hname : Reference.IsName "part.2".toList :=
    ⟨by decide, List.all_eq_true.mp (by decide)⟩
  have hnot : ¬Reference.IsName "größe".toList :=
    fun h => absurd (List.all_eq_true.mpr h.2) (by decide)
  have hpart : expandBlock t "part.2".toList = .ok "x\ny".toList := by decide +kernel
  have hsize : expandBlock t "größe".toList = .ok ['z'] := by decide +kernel
  obtain ⟨hrefers, hsame, -⟩ := expandBlock_lone ho (a := "one".toList) (b := "part.2".toList)
    (x := one) (y := part) (by decide +kernel) rfl (by decide +kernel)
  obtain ⟨hrefers', -, hstays, hnames, himports⟩ := expandBlock_lone ho (a := "two".toList)
    (b := "größe".toList) (x := two) (y := size) (by decide +kernel) rfl (by decide +kernel)
  have hone : expandBlock t "one".toList = .ok "x\ny".toList := by
    rcases hsame hname with ⟨r, hone, hpart'⟩ | ⟨-, e, herror⟩
    · rw [hone, ← hpart', hpart]
    · rw [hpart] at herror
      cases herror
  exact ⟨ho, hone, hpart, hrefers.mpr hname, hstays (hnames hnot (by decide) (by decide)),
    fun h => hnot (hrefers'.mp h), (himports _).mpr hsize⟩

/-- The reference to a block whose name is a letter beyond ASCII is left as it is. -/
theorem expandBlock_lone_unread :
    ¬ ∀ (t a b : Text) (o : Outline) (x y : Block), Outline.parse t = .ok o →
      o.findBlock? a = some x → x.body = [Reference.written b] → o.findBlock? b = some y →
      a ≠ b → expandBlock t a = expandBlock t b ∨
        ∃ e, expandBlock t a = .error (.expansion e) := by
  intro hclaim
  let t := "```sh a\n@[é]\n```\n```sh é\nx\n```\n".toList
  let block (start : ℕ) (name : Char) (body : List Line) : Block :=
    ⟨start, start + 2, "```".toList, ⟨"sh".toList, some [name], none, [], [], false, false⟩, body⟩
  let x := block 1 'a' ["@[é]".toList]
  let y := block 4 'é' [['x']]
  let o : Outline := ⟨6, [.block x, .block y], [⟨1, [], .implicit⟩]⟩
  have ho : Outline.parse t = .ok o := by decide +kernel
  have ha : expandBlock t ['a'] = .ok "@[é]".toList := by decide +kernel
  have hb : expandBlock t ['é'] = .ok ['x'] := by decide +kernel
  rcases hclaim t ['a'] ['é'] o x y ho (by decide +kernel) rfl (by decide +kernel) (by decide) with
    hsame | ⟨e, herror⟩
  · rw [ha, hb] at hsame
    revert hsame
    decide
  · rw [ha] at herror
    cases herror

end Literate

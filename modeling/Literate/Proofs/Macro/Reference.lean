import Mathlib
import Literate.Macro.Expansion

/-!
# References in a line

A line is read from the left: a character that starts no reference, or a whole reference.  The
segments of a line, its first reference and its text with the references replaced all follow this
reading.

* `Reference.match?_eq_some_iff`: what a reference looks like.
* `Reference.induction`: reading a line character by character and reference by reference.
* `Reference.mem_names_iff`: the names of a line are those of the references that stand in it.
* `Macro.substituteLine`: a line with its references replaced; `Macro.assemble_eq` says that putting
  the segments together does this.
-/

namespace Literate

open Text

namespace Reference

/-- A name that can be referred to. -/
def IsName (v : Text) : Prop := v ≠ [] ∧ ∀ c ∈ v, isNameChar c = true

/-- The reference to a name as it is written. -/
def written (v : Text) : Text := '@' :: '[' :: (v ++ [']'])

theorem written_append (v after : Text) :
    written v ++ after = '@' :: '[' :: (v ++ ']' :: after) := by simp [written]

/-- A reference is the written reference to a name, and what follows it follows the bracket. -/
theorem match?_eq_some_iff {t v after : Text} :
    match? t = some (v, after) ↔ IsName v ∧ t = written v ++ after := by
  constructor
  · intro h
    unfold match? at h
    split at h
    · rename_i r
      dsimp only at h
      have hsplit := List.takeWhile_append_dropWhile (p := isNameChar) (l := r)
      split at h
      · rename_i after' hdrop
        split_ifs at h with hempty
        cases h
        refine ⟨⟨by simpa using hempty, fun c hc => List.mem_takeWhile_imp hc⟩, ?_⟩
        rw [written_append, ← hdrop, hsplit]
      · cases h
    · cases h
  · rintro ⟨⟨hne, hname⟩, rfl⟩
    rw [written_append]
    have htake : (v ++ ']' :: after).takeWhile isNameChar = v := by
      rw [List.takeWhile_append_of_pos hname, List.takeWhile_cons_of_neg (by decide),
        List.append_nil]
    have hdrop : (v ++ ']' :: after).dropWhile isNameChar = ']' :: after := by
      rw [List.dropWhile_append_of_pos hname, List.dropWhile_cons_of_neg (by decide)]
    simp [match?, htake, hdrop, hne]

theorem match?_written {v : Text} (hv : IsName v) (after : Text) :
    match? (written v ++ after) = some (v, after) := match?_eq_some_iff.mpr ⟨hv, rfl⟩

/-- Reading a line from the left, by characters that start no reference and by references. -/
@[elab_as_elim]
theorem induction {P : Line → Prop} (nil : P [])
    (char : ∀ c r, match? (c :: r) = none → P r → P (c :: r))
    (ref : ∀ v after, IsName v → P after → P (written v ++ after)) (l : Line) : P l := by
  induction hn : l.length using Nat.strong_induction_on generalizing l with
  | h n ih =>
    cases l with
    | nil => exact nil
    | cons c r =>
      cases hm : match? (c :: r) with
      | none => exact char c r hm (ih r.length (by rw [← hn]; simp) r rfl)
      | some p =>
        obtain ⟨v, after⟩ := p
        obtain ⟨hv, heq⟩ := match?_eq_some_iff.mp hm
        rw [heq] at hn ⊢
        refine ref v after hv (ih after.length ?_ after rfl)
        rw [← hn, List.length_append, written]
        simp

/-! ## Segments -/

theorem segmentsFrom_skip (x r : Text) : segmentsFrom x.length (x ++ r) = segmentsFrom 0 r := by
  induction x with
  | nil => rfl
  | cons c x ih => rw [List.length_cons, List.cons_append, segmentsFrom, ih]

theorem segments_char {c : Char} {r : Text} (h : match? (c :: r) = none) :
    segments (c :: r) = (segments r).cons c := by
  rw [segments, segmentsFrom, h]
  rfl

theorem segments_written {v : Text} (hv : IsName v) (after : Text) :
    segments (written v ++ after) =
      ⟨[], (v, (segments after).lead) :: (segments after).rest⟩ := by
  have hm := match?_written hv after
  have hskip := segmentsFrom_skip ('[' :: (v ++ [']'])) after
  rw [show ('[' :: (v ++ [']'])).length = v.length + 2 by simp] at hskip
  rw [written, List.cons_append] at hm ⊢
  rw [segments, segmentsFrom, hm]
  dsimp only
  rw [hskip]
  rfl

/-- References do not overlap: only a reference starts with its first character. -/
theorem written_append_cases {v w before after more : Text} (hw : IsName w) (hv : IsName v)
    (h : written w ++ after = before ++ (written v ++ more)) :
    v = w ∨ ∃ before', after = before' ++ (written v ++ more) := by
  rcases List.append_eq_append_iff.mp h with ⟨before', -, hafter⟩ | ⟨c, hbefore, hc⟩
  · exact .inr ⟨before', hafter⟩
  · cases before with
    | nil =>
      left
      have hm := match?_written hw after
      rw [h, List.nil_append, match?_written hv] at hm
      cases hm
      rfl
    | cons d before =>
      cases c with
      | nil => exact .inr ⟨[], hc.symm⟩
      | cons a c =>
        exfalso
        rw [written_append, List.cons_append, List.cons.injEq] at hc
        rw [written, List.cons_append, List.cons.injEq, ← hc.1] at hbefore
        have hmem : '@' ∈ '[' :: (w ++ [']']) := by rw [hbefore.2]; simp
        have hat : '@' ∈ w := by simpa using hmem
        have := hw.2 _ hat
        revert this
        decide

/-- The names a line refers to are those of the references that stand in it. -/
theorem mem_names_iff {l : Line} {v : Text} :
    v ∈ names l ↔ IsName v ∧ ∃ before after, l = before ++ written v ++ after := by
  induction l using induction with
  | nil =>
    constructor
    · intro h; cases h
    · rintro ⟨-, before, after, h⟩
      have := congrArg List.length h
      simp [written] at this
  | char c r hm ih =>
    have hnames : names (c :: r) = names r := by rw [names, segments_char hm]; rfl
    rw [hnames, ih]
    refine and_congr_right fun hv => ⟨?_, ?_⟩
    · rintro ⟨before, after, rfl⟩
      exact ⟨c :: before, after, rfl⟩
    · rintro ⟨before, after, h⟩
      cases before with
      | nil =>
        -- a reference at the front would have been read
        rw [List.nil_append] at h
        rw [h, match?_written hv] at hm
        cases hm
      | cons d before =>
        rw [List.cons_append, List.cons_append, List.cons.injEq] at h
        exact ⟨before, after, h.2⟩
  | ref w after hw ih =>
    have hnames : names (written w ++ after) = w :: names after := by
      rw [names, segments_written hw]; rfl
    rw [hnames, List.mem_cons, ih]
    constructor
    · rintro (rfl | ⟨hv, before, more, rfl⟩)
      · exact ⟨hw, [], after, rfl⟩
      · exact ⟨hv, written w ++ before, more, by simp⟩
    · rintro ⟨hv, before, more, h⟩
      rcases written_append_cases hw hv (by simpa using h) with rfl | ⟨before', rfl⟩
      · exact .inl rfl
      · exact .inr ⟨hv, before', more, by simp⟩

/-! ## The first reference -/

theorem first?_char {c : Char} {r : Text} (h : match? (c :: r) = none) :
    first? (c :: r) = (first? r).map fun p => (c :: p.1, p.2) := by
  rw [first?, search, h]
  cases hs : search match? r <;> simp [first?, hs]

theorem first?_written {v : Text} (hv : IsName v) (after : Text) :
    first? (written v ++ after) = some ([], v, after) := by
  have hm := match?_written hv after
  rw [written, List.cons_append] at hm ⊢
  rw [first?, search, hm]

/-- The segments of a line are the text before its first reference, its name, and the segments of
what follows. -/
theorem segments_of_first? (l : Line) :
    (first? l = none → segments l = ⟨l, []⟩) ∧
      ∀ lead v after, first? l = some (lead, v, after) →
        segments l = ⟨lead, (v, (segments after).lead) :: (segments after).rest⟩ := by
  induction l using induction with
  | nil => exact ⟨fun _ => rfl, fun lead v after h => by cases h⟩
  | char c r hm ih =>
    rw [first?_char hm, segments_char hm]
    constructor
    · intro h
      rw [ih.1 (Option.map_eq_none_iff.mp h)]
      rfl
    · intro lead v after h
      obtain ⟨⟨lead', v', after'⟩, hfirst, heq⟩ := Option.map_eq_some_iff.mp h
      cases heq
      rw [ih.2 _ _ _ hfirst]
      rfl
  | ref w more hw ih =>
    rw [first?_written hw, segments_written hw]
    constructor
    · intro h; cases h
    · intro lead v after h
      cases h
      rfl

end Reference

namespace Macro

open Reference

/-! ## Substitution in a line -/

/-- A text with every reference replaced in place by what its name stands for. -/
def spliced (σ : Text → Text) : Line → Text
  | [] => []
  | c :: r =>
    match _hm : match? (c :: r) with
    | none => c :: spliced σ r
    | some (v, after) => σ v ++ spliced σ after
termination_by l => l.length
decreasing_by
  · simp
  · rw [(match?_eq_some_iff.mp _hm).2, List.length_append, written]
    simp

/-- The lines that replace a line.  When only blanks stand before its first reference, they indent
the lines of what the name stands for, and the rest of the line goes behind the last of these. -/
def substituteLine (σ : Text → Text) (l : Line) : List Line :=
  match first? l with
  | none => [l]
  | some (lead, v, after) =>
    if allBlank lead then indentLines lead (appendLast (spliced σ after) (pieces '\n' (σ v)))
    else [spliced σ l]

/-- A body with its references replaced. -/
def substituteBody (σ : Text → Text) (body : List Line) : Text :=
  join ['\n'] (body.flatMap (substituteLine σ))

variable {σ τ : Text → Text}

theorem spliced_char {c : Char} {r : Text} (h : match? (c :: r) = none) :
    spliced σ (c :: r) = c :: spliced σ r := by
  rw [spliced]
  split
  · rfl
  · rename_i hm
    rw [h] at hm
    cases hm

theorem spliced_written {v : Text} (hv : IsName v) (after : Text) :
    spliced σ (written v ++ after) = σ v ++ spliced σ after := by
  have hm := match?_written hv after
  rw [written, List.cons_append] at hm ⊢
  rw [spliced]
  split
  · rename_i hnone
    rw [hm] at hnone
    cases hnone
  · rename_i w more hsome
    rw [hm] at hsome
    cases hsome
    rfl

/-- What the segments of a text are put together to. -/
theorem tailText_segments (l : Line) :
    tailText (segments l).lead (segments l).rest ((segments l).rest.map (σ ·.1)) =
      spliced σ l := by
  induction l using induction with
  | nil =>
    rw [spliced]
    rfl
  | char c r hm ih =>
    rw [segments_char hm, spliced_char hm, ← ih]
    cases hrest : (segments r).rest <;> simp [Segments.cons, tailText, hrest]
  | ref v after hv ih =>
    rw [segments_written hv, spliced_written hv, ← ih]
    rfl

theorem spliced_of_first? {l : Line} {lead v after : Text} (h : first? l = some (lead, v, after)) :
    spliced σ l = lead ++ σ v ++ spliced σ after := by
  have hsegments := (segments_of_first? l).2 _ _ _ h
  rw [← tailText_segments l, hsegments, ← tailText_segments after]
  rfl

/-- **Putting segments together** substitutes in the line. -/
theorem assemble_eq (l : Line) :
    assemble (segments l) ((segments l).rest.map (σ ·.1)) = substituteLine σ l := by
  rw [substituteLine]
  cases hf : first? l with
  | none => rw [(segments_of_first? l).1 hf]; rfl
  | some p =>
    obtain ⟨lead, v, after⟩ := p
    rw [(segments_of_first? l).2 _ _ _ hf]
    simp only [assemble, List.map_cons]
    rw [tailText_segments, spliced_of_first? hf]

/-- Only what the names of the line stand for matters. -/
theorem substituteLine_congr {l : Line} (h : ∀ v ∈ names l, σ v = τ v) :
    substituteLine σ l = substituteLine τ l := by
  rw [← assemble_eq, ← assemble_eq]
  congr 1
  refine List.map_congr_left fun p hp => h p.1 ?_
  exact List.mem_map_of_mem hp

theorem substituteBody_congr {body : List Line} (h : ∀ l ∈ body, ∀ v ∈ names l, σ v = τ v) :
    substituteBody σ body = substituteBody τ body := by
  rw [substituteBody, substituteBody, List.flatMap_congr fun l hl => substituteLine_congr (h l hl)]

end Macro

end Literate

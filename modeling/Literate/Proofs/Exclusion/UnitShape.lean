import Mathlib
import Literate.Proofs.Exclusion.MarkedProse

/-!
# The shape of prose units

Units part the prose of a document.  A paragraph is a run of prose lines without an item, as long as
it can be.  A list starts with an item and ends with a prose line; it goes over blank lines only to
an item or to an indented line, and it does so wherever it can.

Lines are read one by one, so what is said of units is first said of what is gathered: `Gathers`
holds at the start, every line keeps it, and whatever it finishes has its shape.

* `Prose.IsParagraph`, `Prose.IsList`: the two shapes.
* `Prose.Gathers`, `Prose.Gathers.step`: what is gathered against the lines read so far.
* `Prose.isUnit_of_mem_units`: every unit has its shape.
* `Prose.units_partition`: units part the prose.
-/

namespace Literate

open Text

namespace Prose

/-! ## Shapes -/

/-- A line that a list can go over: blank, outside fences. -/
def IsSpace (o : Outline) (e : Entry) : Prop := o.isFenced e.number = false ∧ allBlank e.text = true

/-- A line to which a list goes on over blank lines: an item or an indented line. -/
def Resumes (o : Outline) (e : Entry) : Prop :=
  isProse o e = true ∧ (LineKind.isItem e.text = true ∨ 0 < LineKind.indentation e.text)

/-- Blank lines, possibly none, and then a line to which a list goes on over them. -/
def GoesOn (o : Outline) (es : List Entry) : Prop :=
  ∃ blanks e rest, es = blanks ++ e :: rest ∧ (∀ b ∈ blanks, IsSpace o b) ∧ Resumes o e

/-- A paragraph between other lines: a run of prose lines that are no items, which cannot be
extended. -/
structure IsParagraph (o : Outline) (front es back : List Entry) : Prop where
  nonempty : es ≠ []
  prose : ∀ e ∈ es, isProse o e = true ∧ LineKind.isItem e.text = false
  starts : ∀ e ∈ front.getLast?, isProse o e = false
  stops : ∀ e ∈ back.head?, isProse o e = true → LineKind.isItem e.text = true

/-- The lines of a list: they start with an item and end with a prose line, each is prose or blank,
and blank lines are followed by a line to which the list goes on. -/
structure IsList (o : Outline) (es : List Entry) : Prop where
  nonempty : es ≠ []
  starts : ∀ e ∈ es.head?, isProse o e = true ∧ LineKind.isItem e.text = true
  ends : ∀ e ∈ es.getLast?, isProse o e = true
  members : ∀ e ∈ es, isProse o e = true ∨ IsSpace o e
  goesOn : ∀ front b back, es = front ++ b :: back → allBlank b.text = true → GoesOn o back

/-- The lines behind a list that it could be extended by: a prose line right behind it, or one to
which it goes on over blank lines. -/
def Extends (o : Outline) (back : List Entry) : Prop :=
  (∃ e ∈ back.head?, isProse o e = true) ∨ GoesOn o back

/-- A unit of a document: a run of its lines with one of the two shapes. -/
def IsUnit (o : Outline) (es : List Entry) (u : ProseUnit) : Prop :=
  ∃ front back, es = front ++ (u.entries ++ back) ∧
    match u.kind with
    | .paragraph => IsParagraph o front u.entries back
    | .list => IsList o u.entries ∧ ¬Extends o back

variable {o : Outline} {e : Entry} {es : List Entry}

theorem allBlank_of_isProse (h : isProse o e = true) : allBlank e.text = false := by
  simp only [isProse, Bool.not_eq_true', Bool.or_eq_false_iff] at h
  exact h.1.2

theorem not_isSpace_of_isProse (h : isProse o e = true) : ¬IsSpace o e := by
  intro hspace
  rw [IsSpace, allBlank_of_isProse h] at hspace
  cases hspace.2

theorem isStructural_of_isProse (h : isProse o e = true) : isStructural e.text = false := by
  simp only [isProse, Bool.not_eq_true', Bool.or_eq_false_iff] at h
  exact h.2

/-- Blank lines do not go on to a blank line. -/
theorem not_goesOn_of_isSpace {blanks : List Entry} (h : ∀ b ∈ blanks, IsSpace o b) :
    ¬GoesOn o blanks := by
  rintro ⟨bs, f, rest, rfl, -, hf, -⟩
  exact not_isSpace_of_isProse hf (h f (by simp))

/-- Where blank lines end, it is the next line that decides. -/
theorem GoesOn.resumes {blanks rest : List Entry} (h : GoesOn o (blanks ++ e :: rest))
    (hblanks : ∀ b ∈ blanks, IsSpace o b) (he : ¬IsSpace o e) : Resumes o e := by
  obtain ⟨bs, f, rest', heq, hbs, hf⟩ := h
  rcases List.append_eq_append_iff.mp heq with ⟨gap, rfl, hgap⟩ | ⟨gap, rfl, hgap⟩
  · cases gap with
    | nil =>
      obtain ⟨rfl, -⟩ := List.cons.inj hgap
      exact hf
    | cons d gap =>
      obtain ⟨rfl, -⟩ := List.cons.inj hgap
      exact absurd (hbs e (by simp)) he
  · cases gap with
    | nil =>
      obtain ⟨rfl, -⟩ := List.cons.inj hgap
      exact hf
    | cons d gap =>
      obtain ⟨rfl, -⟩ := List.cons.inj hgap
      exact absurd (hblanks f (by simp)) (not_isSpace_of_isProse hf.1)

/-! ## Lists grow -/

theorem isList_singleton (hprose : isProse o e = true) (hitem : LineKind.isItem e.text = true) :
    IsList o [e] where
  nonempty := by simp
  starts := by simpa using ⟨hprose, hitem⟩
  ends := by simpa using hprose
  members := by simpa using .inl hprose
  goesOn front b back heq hb := by
    obtain rfl : b = e := by
      have hmem : b ∈ [e] := by simp [heq]
      simpa using hmem
    rw [allBlank_of_isProse hprose] at hb
    cases hb

theorem GoesOn.append {rest : List Entry} (h : GoesOn o rest) (more : List Entry) :
    GoesOn o (rest ++ more) := by
  obtain ⟨blanks, f, rest, rfl, hblanks, hf⟩ := h
  exact ⟨blanks, f, rest ++ more, by simp, hblanks, hf⟩

/-- A list goes on with a prose line, over blank lines only with one to which it can go on. -/
theorem IsList.append {blanks : List Entry} (h : IsList o es) (hblanks : ∀ b ∈ blanks, IsSpace o b)
    (hprose : isProse o e = true) (hgoes : blanks ≠ [] → Resumes o e) :
    IsList o (es ++ (blanks ++ [e])) where
  nonempty := by simp
  starts := by
    rw [List.head?_append_of_ne_nil _ h.nonempty]
    exact h.starts
  ends := by
    rw [← List.append_assoc, List.getLast?_concat]
    rintro f hf
    obtain rfl := Option.some.inj hf
    exact hprose
  members := by
    intro f hf
    rw [List.mem_append, List.mem_append, List.mem_singleton] at hf
    rcases hf with hf | hf | rfl
    · exact h.members f hf
    · exact .inr (hblanks f hf)
    · exact .inl hprose
  goesOn front b back heq hb := by
    have hnew : ∀ gap, blanks ++ [e] = gap ++ b :: back → GoesOn o back := by
      intro gap hgap
      rcases List.eq_nil_or_concat' back with rfl | ⟨bs, f, rfl⟩
      · obtain ⟨-, rfl⟩ := List.append_singleton_inj.mp hgap
        rw [allBlank_of_isProse hprose] at hb
        cases hb
      · rw [← List.cons_append, ← List.append_assoc, List.append_singleton_inj] at hgap
        obtain ⟨rfl, rfl⟩ := hgap
        exact ⟨bs, e, [], rfl, fun c hc => hblanks c (by simp [hc]), hgoes (by simp)⟩
    rcases List.append_eq_append_iff.mp heq with ⟨gap, -, hgap⟩ | ⟨gap, rfl, hgap⟩
    · exact hnew gap hgap
    · cases gap with
      | nil => exact hnew [] hgap.symm
      | cons c gap =>
        obtain ⟨rfl, rfl⟩ := List.cons.inj hgap
        exact (h.goesOn front b gap rfl hb).append _

/-! ## What is gathered -/

/-- What is gathered are the last of the lines read: nothing yet behind a line that is no prose, the
beginning of a paragraph, or a list and the blank lines held back. -/
def Gathers (o : Outline) (read : List Entry) : Gathering → Prop
  | .idle => ∀ e ∈ read.getLast?, isProse o e = false
  | .paragraph es => ∃ front, read = front ++ es ∧ IsParagraph o front es []
  | .list es blanks =>
    ∃ front, read = front ++ (es ++ blanks) ∧ IsList o es ∧ ∀ b ∈ blanks, IsSpace o b

variable {read : List Entry} {g : Gathering}

/-- A prose line starts a paragraph or a list. -/
theorem gathers_start (hprose : isProse o e = true)
    (h : LineKind.isItem e.text = true ∨ ∀ f ∈ read.getLast?, isProse o f = false) :
    Gathers o (read ++ [e]) (.start e) := by
  rw [Gathering.start]
  split_ifs with hitem
  · exact ⟨read, by simp, isList_singleton hprose hitem, by simp⟩
  · exact ⟨read, rfl, by simp, by simpa [hprose] using hitem, h.resolve_left hitem, by simp⟩

theorem IsParagraph.concat {front : List Entry} (h : IsParagraph o front es [])
    (hprose : isProse o e = true) (hitem : LineKind.isItem e.text = false) :
    IsParagraph o front (es ++ [e]) [] := by
  refine ⟨by simp, ?_, h.starts, by simp⟩
  rw [List.forall_mem_append]
  exact ⟨h.prose, by simpa using ⟨hprose, hitem⟩⟩

/-- What is gathered does not go on with the lines to come. -/
def Ends (o : Outline) (rest : List Entry) : Gathering → Prop
  | .idle => True
  | .paragraph _ => ∀ e ∈ rest.head?, isProse o e = true → LineKind.isItem e.text = true
  | .list _ blanks => ¬Extends o (blanks ++ rest)

/-- Where blank lines end, a line to which a list does not go on does not extend it. -/
theorem not_extends {blanks : List Entry} (hblanks : ∀ b ∈ blanks, IsSpace o b)
    (he : ¬IsSpace o e) (hresumes : ¬Resumes o e) (hprose : blanks = [] → isProse o e = false)
    (rest : List Entry) : ¬Extends o (blanks ++ e :: rest) := by
  rintro (⟨f, hf, hf'⟩ | hgoes)
  · cases blanks with
    | nil =>
      obtain rfl := Option.some.inj hf
      rw [hprose rfl] at hf'
      cases hf'
    | cons b blanks =>
      obtain rfl := Option.some.inj hf
      exact not_isSpace_of_isProse hf' (hblanks b (by simp))
  · exact hresumes (hgoes.resumes hblanks he)

/-- What a line does to what is gathered: that stays in step with the lines read, and what the line
finishes does not go on with it. -/
def StepsTo (o : Outline) (read : List Entry) (g : Gathering) (e : Entry)
    (next : Gathering × List ProseUnit) : Prop :=
  Gathers o (read ++ [e]) next.1 ∧ ∀ u ∈ next.2, u ∈ g.close ∧ ∀ rest, Ends o (e :: rest) g

theorem Gathers.stepProse (h : Gathers o read g) (hprose : isProse o e = true) :
    StepsTo o read g e (g.stepProse e) := by
  match g, h with
  | .idle, h => exact ⟨gathers_start hprose (.inr h), by simp [Gathering.stepProse]⟩
  | .paragraph es, ⟨front, hread, h⟩ =>
    rw [Gathering.stepProse]
    split_ifs with hitem
    · exact ⟨gathers_start hprose (.inl hitem), fun u hu => ⟨hu, by simp [Ends, hitem]⟩⟩
    · have hgrown := h.concat hprose (by simpa using hitem)
      exact ⟨⟨front, by rw [hread, List.append_assoc], hgrown⟩, by simp⟩
  | .list es [], ⟨front, hread, h, _⟩ =>
    have hgrown : IsList o (es ++ [e]) := h.append (List.forall_mem_nil _) hprose (absurd rfl)
    exact ⟨⟨front, by simp [hread], hgrown, by simp⟩, by simp [Gathering.stepProse]⟩
  | .list es (b :: blanks), ⟨front, hread, h, hblanks⟩ =>
    rw [Gathering.stepProse]
    split_ifs with hgoes
    · have hgoes : Resumes o e := ⟨hprose, by simpa using hgoes⟩
      have hgrown := h.append hblanks hprose fun _ => hgoes
      exact ⟨⟨front, by simp [hread], by simpa using hgrown, by simp⟩, by simp⟩
    · -- a line without indentation ends the list behind a blank line
      have hresumes : ¬Resumes o e := fun hresumes => hgoes (by simpa using hresumes.2)
      have hends : ∀ rest, Ends o (e :: rest) (.list es (b :: blanks)) :=
        not_extends hblanks (not_isSpace_of_isProse hprose) hresumes (by simp)
      refine ⟨gathers_start hprose (.inr fun f hf => ?_), fun u hu => ⟨hu, hends⟩⟩
      have hmem : f ∈ b :: blanks := by
        rw [hread, ← List.append_assoc, List.getLast?_append_of_ne_nil _ (by simp)] at hf
        exact List.mem_of_getLast? hf
      by_contra hne
      exact not_isSpace_of_isProse (by simpa using hne) (hblanks f hmem)

theorem Gathers.stepOther (h : Gathers o read g) (hprose : isProse o e = false) :
    StepsTo o read g e (g.stepOther (o.isFenced e.number) e) := by
  have hidle : Gathers o (read ++ [e]) .idle := by
    intro f hf
    rw [List.getLast?_concat] at hf
    exact Option.some.inj hf ▸ hprose
  match g, h with
  | .idle, _ => exact ⟨hidle, fun u hu => ⟨hu, fun _ => trivial⟩⟩
  | .paragraph es, _ => exact ⟨hidle, fun u hu => ⟨hu, by simp [Ends, hprose]⟩⟩
  | .list es blanks, ⟨front, hread, h, hblanks⟩ =>
    rw [Gathering.stepOther]
    split_ifs with hspace
    · have hspace : IsSpace o e := by simpa [IsSpace] using hspace
      refine ⟨⟨front, by simp [hread], h, ?_⟩, by simp⟩
      rw [List.forall_mem_append]
      exact ⟨hblanks, by simpa using hspace⟩
    · have hspace : ¬IsSpace o e := by simpa [IsSpace] using hspace
      have hresumes : ¬Resumes o e := by
        rintro ⟨hprose', -⟩
        rw [hprose] at hprose'
        cases hprose'
      exact ⟨hidle, fun u hu => ⟨hu, not_extends hblanks hspace hresumes fun _ => hprose⟩⟩

/-- **Every line keeps what is gathered in step with the lines read**, and finishes what does not go
on with it. -/
theorem Gathers.step (h : Gathers o read g) (e : Entry) : StepsTo o read g e (Prose.step o g e) := by
  rw [Prose.step]
  split_ifs with hprose
  · exact h.stepProse hprose
  · exact h.stepOther (by simpa using hprose)

/-! ## What is finished -/

theorem Gathers.isUnit (h : Gathers o read g) {rest : List Entry} (hends : Ends o rest g)
    {u : ProseUnit} (hu : u ∈ g.close) : IsUnit o (read ++ rest) u := by
  match g, h with
  | .idle, _ => cases hu
  | .paragraph es, ⟨front, hread, h⟩ =>
    obtain rfl := List.mem_singleton.mp hu
    exact ⟨front, rest, by simp [hread], h.nonempty, h.prose, h.starts, hends⟩
  | .list es blanks, ⟨front, hread, h, _⟩ =>
    obtain rfl := List.mem_singleton.mp hu
    exact ⟨front, blanks ++ rest, by simp [hread], h, hends⟩

theorem Gathers.ends_nil (h : Gathers o read g) : Ends o [] g := by
  match g, h with
  | .idle, _ => trivial
  | .paragraph es, _ => simp [Ends]
  | .list es blanks, ⟨front, hread, h, hblanks⟩ =>
    rw [Ends, List.append_nil]
    rintro (⟨f, hf, hprose⟩ | hgoes)
    · exact not_isSpace_of_isProse hprose (hblanks f (List.mem_of_mem_head? hf))
    · exact not_goesOn_of_isSpace hblanks hgoes

theorem isUnit_of_mem_unitsFrom {rest : List Entry} (h : Gathers o read g) {u : ProseUnit}
    (hu : u ∈ unitsFrom o g rest) : IsUnit o (read ++ rest) u := by
  induction rest generalizing read g with
  | nil => exact h.isUnit h.ends_nil hu
  | cons e rest ih =>
    obtain ⟨hnext, hfinished⟩ := h.step e
    rw [unitsFrom] at hu
    rcases List.mem_append.mp hu with hnow | hlater
    · obtain ⟨hclose, hends⟩ := hfinished u hnow
      exact h.isUnit (hends rest) hclose
    · have hunit := ih hnext hlater
      rwa [List.append_assoc] at hunit

/-- **Every unit has its shape.** -/
theorem isUnit_of_mem_units {u : ProseUnit} (hu : u ∈ units o es) : IsUnit o es u := by
  have hidle : Gathers o [] .idle := by simp [Gathers]
  exact isUnit_of_mem_unitsFrom hidle hu

/-! ## The partition -/

/-- A blank line is neither a heading nor a break. -/
theorem isStructural_of_allBlank {l : Line} (h : allBlank l = true) : isStructural l = false := by
  have hhead : ∀ c, isBlank c = false → (l.dropWhile (· == ' ')).head? ≠ some c := by
    intro c hc heq
    have hmem := (List.dropWhile_sublist _).subset (List.mem_of_head? heq)
    rw [List.all_eq_true.mp h c hmem] at hc
    cases hc
  have hhash : (l.dropWhile (· == ' ')).takeWhile (· == '#') = [] := by
    have hne := hhead '#' (by decide)
    cases hr : l.dropWhile (· == ' ') with
    | nil => rfl
    | cons c r =>
      rw [hr] at hne
      exact List.takeWhile_cons_of_neg (by simpa using hne)
  rw [isStructural, LineKind.isHeading, LineKind.isBreak, LineKind.isUnderline1, LineKind.isRunOf,
    LineKind.unindented?]
  split_ifs
  · rfl
  · simp [LineKind.isBreakOf, hhash, hhead '-' (by decide), hhead '*' (by decide),
      hhead '_' (by decide), hhead '=' (by decide)]

/-- **Units part the prose.**  The lines of units come in the order of the document, each once, and
every prose line is in exactly one of them.  No line of a unit is fenced, a heading, a break or the
underline of one, and every unit is a paragraph or a list of the document, as long as it can be. -/
theorem units_partition (o : Outline) (ls : List Line) :
    let es := Entry.numbered 1 ls
    (((units o es).flatMap ProseUnit.entries).map Entry.number).Pairwise (· < ·) ∧
      (∀ e ∈ es, isProse o e = true → ∃! u, u ∈ units o es ∧ e ∈ u.entries) ∧
      ∀ u ∈ units o es, IsUnit o es u ∧
        ∀ e ∈ u.entries, e ∈ es ∧ o.isFenced e.number = false ∧ isStructural e.text = false := by
  intro es
  have hincreasing := Entry.increasing_numbered 1 ls
  refine ⟨?_, fun e he hprose => ?_, fun u hu => ⟨isUnit_of_mem_units hu, fun e he => ?_⟩⟩
  · exact hincreasing.sublist ((flatMap_units_sublist o es).map Entry.number)
  · exact existsUnique_unit (Entry.nodup_of_increasing hincreasing) he hprose
  · obtain ⟨hmem, hfenced, hprose | hblank⟩ := mem_units hu he
    · exact ⟨hmem, hfenced, isStructural_of_isProse hprose⟩
    · exact ⟨hmem, hfenced, isStructural_of_allBlank hblank⟩

end Prose

end Literate

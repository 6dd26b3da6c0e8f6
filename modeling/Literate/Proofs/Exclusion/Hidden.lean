import Mathlib
import Literate.Deck
import Literate.Proofs.Exclusion.Mirror
import Literate.Proofs.Outline.Stuck

/-!
# Excluded content stays hidden

Other lines in excluded blocks and in their outputs do not show in what is kept of a document: it
can still be read as long as none of them closes the fence, the same texts are kept, and the slides
have the same markdown.

* `Deck.sourcesOf_relocate`: the slides do not depend on the numbers of the lines.
* `Exclusion.DiffersInside`: the second document has other content in records that go.
* `Exclusion.LooksAlike`, `Exclusion.LooksAlike.refill`: one record at a time leaves no trace.
* `excluded_content_hidden`: what is kept of a document does not depend on what is excluded.
-/

namespace Literate

open Text

/-! ## The slides of a document with renumbered lines -/

namespace Deck

open Outline.Mirrors

variable {f : ℕ → ℕ} {K : ℕ → Prop} {o o' : Outline} {kept : List Entry}

/-- A slide has the lines it had. -/
theorem slideLines_relocate (h : o.Mirrors f K o') (hkept : ∀ e ∈ kept, K e.number) {s : Slide}
    (hs : K s.startLine) {span span' : Span} (hspan : SpanMirrors f K span span') :
    slideLines (kept.map (Entry.relocate f)) (s.relocate f) span' = slideLines kept s span := by
  rw [slideLines, slideLines, List.filter_map, List.map_map]
  refine congrArg (List.map Entry.text) (List.filter_congr fun e he => ?_)
  obtain ⟨hfirst, hlast⟩ := hspan e.number (hkept e he)
  have hstart : (f e.number == f s.startLine) = (e.number == s.startLine) := by
    rw [Bool.eq_iff_iff, beq_iff_eq, beq_iff_eq]
    exact h.eq_iff (hkept e he) hs
  show (decide (span'.first ≤ f e.number) && decide (f e.number ≤ span'.last) &&
    !(decide (s.kind = .break) && f e.number == f s.startLine)) = _
  rw [decide_eq_decide.mpr hfirst, decide_eq_decide.mpr hlast, hstart]

theorem map_zip_relocate {slides : List Slide} {spans spans' : List Span}
    (h : o.Mirrors f K o') (hkept : ∀ e ∈ kept, K e.number) (hs : ∀ s ∈ slides, K s.startLine)
    (hspans : List.Forall₂ (SpanMirrors f K) spans spans') :
    ((slides.map (Slide.relocate f)).zip spans').map (fun (s, span) =>
        slideSource (kept.map (Entry.relocate f)) s span) =
      (slides.zip spans).map fun (s, span) => slideSource kept s span := by
  induction hspans generalizing slides with
  | nil => simp
  | cons hspan _ ih =>
    cases slides with
    | nil => rfl
    | cons s slides =>
      rw [List.map_cons, List.zip_cons_cons, List.zip_cons_cons, List.map_cons, List.map_cons,
        ih fun s hs' => hs s (List.mem_cons_of_mem _ hs')]
      dsimp only
      rw [slideSource, slideSource, slideLines_relocate h hkept (hs s List.mem_cons_self) hspan]
      rfl

/-- **The slides do not depend on the numbers of the lines.** -/
theorem sourcesOf_relocate (h : o.Mirrors f K o') (hkept : ∀ e ∈ kept, K e.number) :
    sourcesOf o' (kept.map (Entry.relocate f)) = sourcesOf o kept := by
  rw [sourcesOf, sourcesOf, h.slides]
  exact map_zip_relocate h hkept (fun s hs => (h.starts s hs).1) h.slideSpans

end Deck

/-! ## Documents that look alike -/

namespace Exclusion

/-- The lines `ls'` have the content of `ls` except inside records that go for the target.  `ls` are
the lines of the document `all` from line `n + 1` on. -/
inductive DiffersInside (o : Outline) (target : Target) (all : List Line) :
    ℕ → List Line → List Line → Prop
  | nil {n : ℕ} : DiffersInside o target all n [] []
  | keep {n : ℕ} {l : Line} {ls ls' : List Line}
    (rest : DiffersInside o target all (n + 1) ls ls') :
    DiffersInside o target all n (l :: ls) (l :: ls')
  | refill {n : ℕ} {r : Record} {opener closer : Line} {f : Fence}
    {inner inner' ls ls' : List Line} (hr : r ∈ o.records) (hgone : removes o target all r = true)
    (hstart : r.startLine = n + 1) (hend : r.endLine = n + (inner.length + 2))
    (hopener : Fence.ofLine? opener = some f) (hinner : ∀ l ∈ inner', f.KeepsOpen l)
    (rest : DiffersInside o target all (n + (inner.length + 2)) ls ls') :
    DiffersInside o target all n (opener :: (inner ++ closer :: ls))
      (opener :: (inner' ++ closer :: ls'))

/-- The document `ls'` cannot be told from `ls` by what is kept of it; the records that end at
line `n` or before are the same. -/
structure LooksAlike (target : Target) (n : ℕ) (o o' : Outline) (ls ls' : List Line) : Prop where
  kept : (keptLines o' target ls').map Entry.text = (keptLines o target ls).map Entry.text
  slides : Deck.sourcesOf o' (keptLines o' target ls') = Deck.sourcesOf o (keptLines o target ls)
  records : ∀ q ∈ o.records, q.endLine ≤ n →
    q ∈ o'.records ∧ removes o' target ls' q = removes o target ls q

namespace LooksAlike

variable {target : Target} {n m : ℕ} {o o₁ o₂ : Outline} {ls ls₁ ls₂ : List Line}

theorem rfl : LooksAlike target n o o ls ls := ⟨Eq.refl _, Eq.refl _, fun _ hq _ => ⟨hq, Eq.refl _⟩⟩

theorem mono (h : LooksAlike target n o o₁ ls ls₁) (hle : m ≤ n) :
    LooksAlike target m o o₁ ls ls₁ :=
  ⟨h.kept, h.slides, fun q hq hend => h.records q hq (hend.trans hle)⟩

theorem trans (h₁ : LooksAlike target n o o₁ ls ls₁) (h₂ : LooksAlike target n o₁ o₂ ls₁ ls₂) :
    LooksAlike target n o o₂ ls ls₂ where
  kept := h₂.kept.trans h₁.kept
  slides := h₂.slides.trans h₁.slides
  records q hq hend := by
    obtain ⟨hq₁, hgone₁⟩ := h₁.records q hq hend
    obtain ⟨hq₂, hgone₂⟩ := h₂.records q hq₁ hend
    exact ⟨hq₂, hgone₂.trans hgone₁⟩

/-- Other content in one record that goes leaves no trace. -/
theorem refill {pre post : List Line} {g g' : FencedLines} {o' : Outline}
    (h : Outline.IsRefilled pre g g' post o o')
    (hgone : removes o target (pre ++ g.lines ++ post) (g.record pre.length) = true) :
    LooksAlike target pre.length o o' (pre ++ g.lines ++ post) (pre ++ g'.lines ++ post) where
  kept := by
    rw [h.keptLines_eq hgone, List.map_map]
    exact List.map_congr_left fun e _ => Eq.refl _
  slides := by
    rw [h.keptLines_eq hgone]
    exact Deck.sourcesOf_relocate h.mirrors fun e he => h.stays_of_mem_keptLines hgone he
  records q hq hend := by
    obtain ⟨hq', hmirrors⟩ := h.before q hq hend
    exact ⟨hq', h.removes_eq hq hmirrors⟩

end LooksAlike

variable {o : Outline} {target : Target} {all : List Line}

/-- The record that starts behind `front` and ends at the line `closer` is a fenced range with the
lines in between. -/
theorem exists_isRefilled {o : Outline} {front inner back : List Line} {opener closer : Line}
    {f : Fence} {r : Record}
    (ho : Outline.ofLines (front ++ opener :: (inner ++ closer :: back)) = .ok o)
    (hr : r ∈ o.records) (hstart : r.startLine = front.length + 1)
    (hend : r.endLine = front.length + (inner.length + 2)) (hopener : Fence.ofLine? opener = some f)
    {inner' : List Line} (hinner : ∀ l ∈ inner', f.KeepsOpen l) :
    ∃ g g' o', g.lines = opener :: (inner ++ [closer]) ∧ g'.lines = opener :: (inner' ++ [closer]) ∧
      r = g.record front.length ∧ Outline.IsRefilled front g g' back o o' := by
  obtain ⟨pre, g, post, hsplit, rfl, hrefill⟩ := Outline.exists_refilled ho hr
  rw [FencedLines.startLine_record] at hstart
  rw [FencedLines.endLine_record, FencedLines.height] at hend
  have hlength : front.length = pre.length := by omega
  rw [List.append_assoc] at hsplit
  obtain ⟨rfl, htail⟩ := List.append_inj hsplit hlength
  rw [FencedLines.lines, List.cons_append, List.cons.injEq, List.append_assoc] at htail
  obtain ⟨rfl, htail⟩ := htail
  obtain ⟨rfl, hclose⟩ := List.append_inj htail (by omega)
  rw [List.singleton_append, List.cons.injEq] at hclose
  obtain ⟨rfl, rfl⟩ := hclose
  have hf : g.fence = f := Option.some.inj (g.opens.symm.trans hopener)
  rw [← hf] at hinner
  obtain ⟨o', hrefilled⟩ := hrefill inner' hinner
  exact ⟨g, _, o', Eq.refl _, Eq.refl _, Eq.refl _, hrefilled⟩

/-- The lines `front` in front of the two rests: the documents look alike.  The records are refilled
from the last one to the first, so that those still to come keep their lines. -/
theorem DiffersInside.exists_looksAlike {n : ℕ} {ls ls' : List Line}
    (h : DiffersInside o target all n ls ls') (ho : Outline.ofLines all = .ok o) (front : List Line)
    (hfront : front.length = n) (hall : all = front ++ ls) :
    ∃ o', Outline.ofLines (front ++ ls') = .ok o' ∧
      LooksAlike target n o o' all (front ++ ls') := by
  induction h generalizing front with
  | nil => exact ⟨o, hall ▸ ho, hall ▸ .rfl⟩
  | @keep n l ls ls' rest ih =>
    obtain ⟨o', ho', halike⟩ := ih (front ++ [l]) (by simp [hfront]) (by simp [hall])
    rw [List.append_assoc, List.singleton_append] at ho' halike
    exact ⟨o', ho', halike.mono (Nat.le_succ n)⟩
  | @refill n r opener closer f inner inner' ls ls' hr hgone hstart hend hopener hinner rest ih =>
    obtain ⟨o₁, ho₁, halike₁⟩ := ih (front ++ opener :: (inner ++ [closer]))
      (by simp [hfront]) (by simp [hall])
    have hsplit : front ++ opener :: (inner ++ [closer]) ++ ls' =
        front ++ opener :: (inner ++ closer :: ls') := by simp
    rw [hsplit] at ho₁ halike₁
    obtain ⟨hr₁, hgone₁⟩ := halike₁.records r hr hend.le
    subst hfront
    obtain ⟨g, g', o', hg, hg', rfl, hrefilled⟩ :=
      exists_isRefilled ho₁ hr₁ hstart hend hopener hinner
    have hlines : ∀ {inner : List Line} {g : FencedLines}, g.lines = opener :: (inner ++ [closer]) →
        front ++ g.lines ++ ls' = front ++ opener :: (inner ++ closer :: ls') := by
      intro inner g hg
      simp [hg]
    have hgone' : removes o₁ target (front ++ g.lines ++ ls') (g.record front.length) = true := by
      rw [hlines hg, hgone₁, hgone]
    have halike := LooksAlike.refill hrefilled hgone'
    have hparsed := hrefilled.parsed'
    rw [hlines hg, hlines hg'] at halike
    rw [hlines hg'] at hparsed
    exact ⟨o', hparsed, (halike₁.mono (by omega)).trans halike⟩

end Exclusion

/-- **Excluded content stays hidden.**  The first document can be read, and the second has other
lines, none of which closes the fence, in blocks that are excluded from the target and in the
outputs attached to those.  Then the second document can be read, the same texts are kept of both,
and for the slides every slide has the same markdown. -/
theorem excluded_content_hidden {t₁ t₂ : Text} {o₁ : Outline} {target : Target}
    (ho : Outline.parse t₁ = .ok o₁)
    (h : Exclusion.DiffersInside o₁ target (lines t₁) 0 (lines t₁) (lines t₂)) :
    ∃ o₂ kept₁ kept₂, Outline.parse t₂ = .ok o₂ ∧ keptLines t₁ target = .ok kept₁ ∧
      keptLines t₂ target = .ok kept₂ ∧ kept₂.map Entry.text = kept₁.map Entry.text ∧
      (target = .slides →
        ∃ slides, Deck.sources t₁ = .ok slides ∧ Deck.sources t₂ = .ok slides) := by
  obtain ⟨o₂, ho₂, halike⟩ := h.exists_looksAlike ho [] rfl rfl
  rw [List.nil_append] at ho₂ halike
  have ho₂ : Outline.parse t₂ = .ok o₂ := ho₂
  refine ⟨o₂, _, _, ho₂, by rw [keptLines, ho], by rw [keptLines, ho₂], halike.kept, ?_⟩
  rintro rfl
  refine ⟨_, by rw [Deck.sources, ho], ?_⟩
  rw [Deck.sources, ho₂]
  exact congrArg Except.ok halike.slides

/-- A block hidden in the slides has another body, with a fence of the other kind and a line that
would start a slide, and its output has become empty. -/
theorem excluded_content_hidden_slides :
    let t₁ := "# T\n```sh a &\n1\n```\n\n```output\nx\n```\n\nB\n".toList
    let t₂ := "# T\n```sh a &\n2 &\n~~~\n# H\n```\n\n```output\n```\n\nB\n".toList
    let b : Block := ⟨2, 4, "```".toList, ⟨"sh".toList, some ['a'], none, [], [], false, true⟩,
      [['1']]⟩
    let o : Outline := ⟨10, [.block b, .output ⟨6, 8⟩], [⟨1, ['T'], .heading⟩]⟩
    Outline.parse t₁ = .ok o ∧
      Exclusion.DiffersInside o .slides (lines t₁) 0 (lines t₁) (lines t₂) ∧
      Deck.sources t₁ = .ok ["# T\n\nB\n".toList] ∧
      Deck.sources t₂ = .ok ["# T\n\nB\n".toList] := by
  intro t₁ t₂ b o
  have ho : Outline.parse t₁ = .ok o := by decide +kernel
  have hlines₁ : lines t₁ = "# T".toList :: "```sh a &".toList :: ([['1']] ++ "```".toList :: [] ::
      "```output".toList :: ([['x']] ++ "```".toList :: [[], ['B']])) := by decide +kernel
  have hlines₂ : lines t₂ = "# T".toList :: "```sh a &".toList ::
      (["2 &".toList, "~~~".toList, "# H".toList] ++ "```".toList :: [] ::
        "```output".toList :: ([] ++ "```".toList :: [[], ['B']])) := by decide +kernel
  let f : Fence := ⟨0, .backtick, 3, "sh a &".toList⟩
  have hinner : ∀ l ∈ ["2 &".toList, "~~~".toList, "# H".toList], f.KeepsOpen l :=
    fun l hl => Fence.matching?_eq_none_iff.mp
      ((by decide +kernel : ∀ l ∈ ["2 &".toList, "~~~".toList, "# H".toList],
        f.matching? l = none) l hl)
  have hdiffers : Exclusion.DiffersInside o .slides (lines t₁) 0 (lines t₁) (lines t₂) := by
    have hblock : Exclusion.removes o .slides (lines t₁) (.block b) = true := by decide +kernel
    have houtput : Exclusion.removes o .slides (lines t₁) (.output ⟨6, 8⟩) = true := by
      decide +kernel
    rw [hlines₁] at hblock houtput ⊢
    rw [hlines₂]
    refine .keep (.refill (r := .block b) (f := f) (by simp [o]) hblock rfl rfl (by decide +kernel)
      hinner (.keep ?_))
    exact .refill (r := .output ⟨6, 8⟩) (f := ⟨0, .backtick, 3, "output".toList⟩) (by simp [o])
      houtput rfl rfl (by decide +kernel) (by simp) (.keep (.keep .nil))
  have hsources : Deck.sources t₁ = .ok ["# T\n\nB\n".toList] := by decide +kernel
  obtain ⟨-, -, -, -, -, -, -, hslides⟩ := excluded_content_hidden ho hdiffers
  obtain ⟨slides, h₁, h₂⟩ := hslides rfl
  rw [hsources] at h₁
  exact ⟨ho, hdiffers, hsources, h₂.trans h₁.symm⟩

end Literate

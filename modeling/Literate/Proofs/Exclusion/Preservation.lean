import Mathlib
import Literate.Proofs.Exclusion.CleanDocument
import Literate.Proofs.Text.Lines

/-!
# Exclusion preserves the document

The kept lines are a document again.  Its records are those of the document that do not go, with the
lines they had, and there is nothing left in it to exclude.

* `Exclusion.KeptAs`: what a record that stays becomes.
* `Exclusion.exists_layout_keptLines`: the layout of all that is kept.
* `keptLines_preserves`: the kept lines are read to the records that stay, and kept as they are by a
  second exclusion.
-/

namespace Literate

open Text

/-- The lines of a record in a list that has one member for each line of the document. -/
def Record.within {α : Type} (r : Record) (xs : List α) : List α :=
  (xs.drop (r.startLine - 1)).take (r.endLine + 1 - r.startLine)

theorem FencedLines.within_record {α : Type} (g : FencedLines) {pre mid post : List α} {n : ℕ}
    (hpre : pre.length = n) (hmid : mid.length = g.height) :
    (g.record n).within (pre ++ mid ++ post) = mid := by
  rw [Record.within, startLine_record, endLine_record, Nat.add_sub_cancel,
    show n + g.height + 1 - (n + 1) = g.height by omega, List.append_assoc,
    List.drop_left' hpre, List.take_left' hmid]

/-- The lines one after the other, each with a newline. -/
def Entry.written (es : List Entry) : Text := es.flatMap fun e => e.text ++ ['\n']

/-- Fronts of lines without carriage returns are the lines of what is written. -/
theorem Entry.lines_written {t : Text} (hreturn : '\r' ∉ t) {es : List Entry}
    (h : ∀ e ∈ es, ∃ l ∈ lines t, e.text <+: l) : lines (written es) = es.map text := by
  rw [written, ← List.flatMap_map text (· ++ ['\n'])]
  refine lines_flatMap fun l hl => ?_
  obtain ⟨e, he, rfl⟩ := List.mem_map.mp hl
  obtain ⟨m, hm, hfront⟩ := h e he
  exact ⟨fun hnewline => newline_notMem_of_mem_lines hm (hfront.subset hnewline),
    fun hlast => hreturn (mem_of_mem_lines hm (hfront.subset (List.mem_of_getLast? hlast)))⟩

namespace Exclusion

/-- What a record of a document becomes among its kept lines: the same lines under the same numbers,
but for the markers on the opening fence of a block. -/
structure KeptAs (ls : List Line) (kept : List Entry) (r q : Record) : Prop where
  lines_eq : ∃ opener rest, r.within ls = opener :: rest ∧
    q.within kept = Entry.numbered r.startLine
      ((if r.block?.isSome then cleanOpener opener else opener) :: rest)
  /-- An output region stays one. -/
  output : ∀ x, r = .output x → ∃ y, q = .output y
  /-- A block stays the same but for its markers and its place, unless its info was `output` and
  markers: then it becomes a region. -/
  block : ∀ b, r = .block b → (∃ y, q = .output y ∧ b.info.shown = Info.parse outputInfo) ∨
    ∃ first last, q = .block { b with startLine := first, endLine := last, info := b.info.shown }

theorem clean_front (o : Outline) (e : Entry) : clean o e <+: e.text := by
  rw [clean]
  split_ifs
  · exact Marker.strip_isPrefix _
  · cases hf : Fence.ofLine? e.text with
    | none => simp [cleanOpener, hf]
    | some f => exact (ofLine?_cleanOpener hf).1
  · exact List.prefix_rfl

/-- Kept lines have increasing numbers, and each is the front of the line of its number. -/
theorem keptLines_fronts (o : Outline) (target : Target) (ls : List Line) :
    ((keptLines o target ls).map Entry.number).Pairwise (· < ·) ∧
      ∀ e ∈ keptLines o target ls,
        1 ≤ e.number ∧ ∃ l, ls[e.number - 1]? = some l ∧ e.text <+: l := by
  have hsub : (keptLines o target ls).Sublist
      ((Entry.numbered 1 ls).map fun e => ⟨e.number, clean o e⟩) := collect_sublist _ _ _
  constructor
  · have hnumbers := hsub.map Entry.number
    rw [List.map_map] at hnumbers
    have hrange : (Entry.numbered 1 ls).map (Entry.number ∘ fun e => ⟨e.number, clean o e⟩) =
        List.range' 1 ls.length := Entry.map_number_numbered 1 ls
    rw [hrange] at hnumbers
    exact (List.pairwise_lt_range' 1).sublist hnumbers
  · intro e he
    obtain ⟨e₀, he₀, rfl⟩ := List.mem_map.mp (hsub.subset he)
    obtain ⟨h1, h2⟩ := Entry.mem_numbered_iff.mp he₀
    exact ⟨h1, e₀.text, h2, clean_front o e₀⟩

/-- The opening fence of an image has no markers. -/
theorem IsImage.find_eq_nil {kept : List Entry} {p q : ℕ × FencedLines} (h : IsImage kept p q) :
    Marker.find q.2.fence.rest = [] := by
  obtain ⟨rest, hfence, hfind⟩ := h.fence_eq
  rwa [hfence]

/-- The image of an output region is one. -/
theorem IsImage.output {kept : List Entry} {p q : ℕ × FencedLines} (h : IsImage kept p q)
    {x : OutputRegion} (hx : p.2.record p.1 = .output x) : ∃ y, q.2.record q.1 = .output y := by
  have hinfo : p.2.fence.info = outputInfo := by
    by_contra hinfo
    rw [FencedLines.record, Scan.recordOf, if_neg hinfo] at hx
    cases hx
  -- the opening fence is as it was
  have hopens := q.2.opens
  rw [h.opener_eq, keptOpener, hx] at hopens
  have hsame : q.2.fence = p.2.fence := Option.some.inj (hopens.symm.trans p.2.opens)
  exact ⟨_, by rw [FencedLines.record, Scan.recordOf, if_pos (by rw [hsame, hinfo])]⟩

/-- The image of a block is the block without its markers, unless only `output` is left of its
info. -/
theorem IsImage.block {kept : List Entry} {p q : ℕ × FencedLines} (h : IsImage kept p q)
    {b : Block} (hb : p.2.record p.1 = .block b) :
    (∃ y, q.2.record q.1 = .output y ∧ b.info.shown = Info.parse outputInfo) ∨
      ∃ first last, q.2.record q.1 =
        .block { b with startLine := first, endLine := last, info := b.info.shown } := by
  obtain ⟨rest, hfence, -⟩ := h.fence_eq
  have hinfo := h.info_eq
  rw [FencedLines.record, Scan.recordOf] at hb ⊢
  split_ifs at hb
  cases hb
  split_ifs with hout
  · left
    rw [hout] at hinfo
    exact ⟨_, rfl, hinfo.symm⟩
  · right
    refine ⟨q.1 + 1, q.1 + q.2.height, ?_⟩
    rw [hinfo, h.inner_eq, hfence]
    rfl

/-- The image of a range is what its record becomes. -/
theorem IsImage.keptAs {P : Line → Prop} {ls : List Line} {gs : List (ℕ × FencedLines)}
    (hl : Layout P 0 ls gs) {kept : List Entry} {p q : ℕ × FencedLines} (hp : p ∈ gs)
    (h : IsImage kept p q) : KeptAs ls kept (p.2.record p.1) (q.2.record q.1) := by
  obtain ⟨pre, post, hkept, hpre⟩ := h.place
  have hlines : q.2.lines = keptOpener p :: (p.2.inner ++ [p.2.closer]) := by
    rw [FencedLines.lines, h.opener_eq, h.inner_eq, h.closer_eq]
  refine ⟨⟨p.2.opener, p.2.inner ++ [p.2.closer], ?_, ?_⟩, fun _ => h.output, fun _ => h.block⟩
  · obtain ⟨pre', post', hls, hpre'⟩ := hl.exists_split hp
    rw [hls, p.2.within_record (by omega) p.2.length_lines]
    rfl
  · rw [hkept, q.2.within_record hpre (by rw [Entry.length_numbered, FencedLines.length_lines]),
      hlines, FencedLines.startLine_record]
    rfl

/-- The layout of all that is kept. -/
theorem exists_layout_keptLines {P : Line → Prop} {o : Outline} (target : Target) {ls : List Line}
    {gs : List (ℕ × FencedLines)} (h : Layout P 0 ls gs) (ho : o.records = Layout.records gs) :
    ∃ gs', Layout IsClean 0 ((keptLines o target ls).map Entry.text) gs' ∧
      List.Forall₂ (IsImage (keptLines o target ls))
        (gs.filter fun p => !removes o target ls (p.2.record p.1)) gs' := by
  obtain ⟨kept, gs', hkept, hlayout, himages⟩ := collect_layout target ls (h.apart_outline ho)
    (Layout.block_startLine_le ho) h [] [] false true ho (by simp)
  rw [show keptLines o target ls = kept from hkept]
  exact ⟨gs', hlayout, himages⟩

end Exclusion

/-- **Exclusion preserves the document and leaves nothing to exclude.**  The kept lines are fronts
of lines of the document, in order.  Put together they can be read: the records are those that do not
go, with all their lines, and a second exclusion keeps everything. -/
theorem keptLines_preserves {t : Text} {o : Outline} (hreturn : '\r' ∉ t)
    (ho : Outline.parse t = .ok o) (target : Target) :
    ∃ kept o', keptLines t target = .ok kept ∧
      (kept.map Entry.number).Pairwise (· < ·) ∧
      (∀ e ∈ kept, 1 ≤ e.number ∧ ∃ l, (lines t)[e.number - 1]? = some l ∧ e.text <+: l) ∧
      lines (Entry.written kept) = kept.map Entry.text ∧
      Outline.parse (Entry.written kept) = .ok o' ∧
      List.Forall₂ (Exclusion.KeptAs (lines t) kept)
        (o.records.filter fun r => !Exclusion.removes o target (lines t) r) o'.records ∧
      keptLines (Entry.written kept) target = .ok (Entry.numbered 1 (kept.map Entry.text)) := by
  obtain ⟨gs, hlayout, hrecords⟩ := Outline.exists_layout ho
  obtain ⟨hpair, hfronts⟩ := Exclusion.keptLines_fronts o target (lines t)
  obtain ⟨kept, gs', hkept, hlayout', himage⟩ := Exclusion.collect_layout target
    (lines t) (hlayout.apart_outline hrecords) (Layout.block_startLine_le hrecords) hlayout
    [] [] false true hrecords (by simp)
  have heq : Exclusion.keptLines o target (lines t) = kept := hkept
  rw [heq] at hpair hfronts
  have hlines : lines (Entry.written kept) = kept.map Entry.text := by
    refine Entry.lines_written hreturn fun e he => ?_
    obtain ⟨-, l, hl, hfront⟩ := hfronts e he
    exact ⟨l, List.mem_of_getElem? hl, hfront⟩
  rw [List.length_nil, ← hlines] at hlayout'
  obtain ⟨o', ho', hrecords'⟩ := Outline.parse_of_layout hlayout'
  refine ⟨kept, o', by rw [keptLines, ho, ← heq], hpair, hfronts, hlines, ho', ?_, ?_⟩
  · have hmem := (List.forall₂_and_left _ _).mpr
      ⟨fun p (hp : p ∈ _) => List.mem_of_mem_filter hp, himage⟩
    rw [hrecords, hrecords', Layout.records, Layout.records, List.filter_map,
      List.forall₂_map_left_iff, List.forall₂_map_right_iff]
    exact hmem.imp fun p q h => h.2.keptAs hlayout h.1
  · have hback := List.Forall₂.flip (R := fun q p => _ ∧ Exclusion.IsImage kept p q)
      (himage.imp fun p q h => ⟨h.find_eq_nil, h⟩)
    have hclean : Exclusion.IsCleanLayout (lines (Entry.written kept)) gs' :=
      ⟨hlayout', ((List.forall₂_and_left _ _).mp hback).1⟩
    simp only [keptLines, ho', hclean.keptLines_eq hrecords' target]
    rw [hlines]

/-- A paragraph and a block with its output go; a block loses the marker for the other target. -/
theorem keptLines_preserves_shown :
    let t := ("# T\n\nold %p\n\n```sh a %\nx\n```\n\n```output\ny\n```\n\n```sh b &\nz\n```\n" ++
      "end &p").toList
    let a : Block :=
      ⟨5, 7, "```".toList, ⟨"sh".toList, some ['a'], none, [], [], true, false⟩, [['x']]⟩
    let b : Block :=
      ⟨13, 15, "```".toList, ⟨"sh".toList, some ['b'], none, [], [], false, true⟩, [['z']]⟩
    let o : Outline := ⟨16, [.block a, .output ⟨9, 11⟩, .block b], [⟨1, ['T'], .heading⟩]⟩
    let kept : List Entry := [⟨1, "# T".toList⟩, ⟨2, []⟩, ⟨13, "```sh b".toList⟩, ⟨14, ['z']⟩,
      ⟨15, "```".toList⟩, ⟨16, "end".toList⟩]
    '\r' ∉ t ∧ Outline.parse t = .ok o ∧ keptLines t .doc = .ok kept ∧
      ∃ o', Outline.parse (Entry.written kept) = .ok o' ∧
        List.Forall₂ (Exclusion.KeptAs (lines t) kept) [.block b] o'.records ∧
        keptLines (Entry.written kept) .doc = .ok (Entry.numbered 1 (kept.map Entry.text)) := by
  intro t a b o kept
  have hreturn : '\r' ∉ t := by decide +kernel
  have ho : Outline.parse t = .ok o := by decide +kernel
  have hkept : keptLines t .doc = .ok kept := by decide +kernel
  have hstay : (o.records.filter fun r => !Exclusion.removes o .doc (lines t) r) = [.block b] := by
    decide +kernel
  obtain ⟨kept', o', h, -, -, -, hparse, himages, hagain⟩ := keptLines_preserves hreturn ho .doc
  obtain rfl : kept = kept' := Except.ok.inj (hkept.symm.trans h)
  rw [hstay] at himages
  exact ⟨hreturn, ho, hkept, o', hparse, himages, hagain⟩

end Literate

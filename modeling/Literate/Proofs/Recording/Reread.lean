import Mathlib
import Literate.Proofs.Outline.Stuck
import Literate.Proofs.Recording.Preservation
import Literate.Proofs.Text.PlainEnds

/-!
# Reading a document with recorded output again

The fence of a region is longer than any run of backticks that starts a line of the payload, where a
line ends at a newline.  A file is read with every line end as a newline, so a carriage return in
the payload becomes a line end when the file is read again, and what stands behind it begins a line
that the fence was not made for.  The document with the output is read back exactly when no such
line closes the region.

* `Output.StaysOpen`: no line of the payload, as it is read again, closes the region.
* `Output.staysOpen_of_notMem`: so it is without carriage returns.
* `ReadsBack`: what the document that is read again has to do with the one before.
* `recordingEdit_readsBack_iff`: it is read back exactly when the payload stays open.
-/

namespace Literate

open Text

/-! ## The region as it is read again -/

namespace Output

variable {out : Output}

/-- The lines of the payload as they are read again. -/
def readLines (out : Output) : List Line := lines (plainEnds (out.payload ++ ['\n']))

/-- No line of the payload closes the region when it is read again. -/
def StaysOpen (out : Output) : Prop := ∀ l ∈ out.readLines, (opening out.payload).KeepsOpen l

instance (out : Output) : Decidable out.StaysOpen :=
  decidable_of_iff (∀ l ∈ out.readLines, (opening out.payload).matching? l = none)
    (forall₂_congr fun _ _ => Fence.matching?_eq_none_iff)

/-- Without carriage returns the payload is read as it is. -/
theorem staysOpen_of_notMem (h : '\r' ∉ out.payload) : out.StaysOpen := by
  intro l hl
  have hplain : '\r' ∉ out.payload ++ ['\n'] := by
    rw [List.mem_append, not_or]
    exact ⟨h, by decide⟩
  rw [readLines, plainEnds_of_notMem hplain] at hl
  exact keepsOpen_payload out.payload hl

/-- The region as a fenced range when it is read again. -/
def readRegion (out : Output) (h : out.StaysOpen) : FencedLines :=
  { out.fencedLines with inner := out.readLines, keepsOpen := h }

theorem record_readRegion (h : out.StaysOpen) (n : ℕ) :
    (out.readRegion h).record n = .output ⟨n + 1, n + (out.readRegion h).height⟩ := by
  have : (opening out.payload).info = outputInfo := by simp only [opening, Fence.info]; decide
  simp [FencedLines.record, Scan.recordOf, readRegion, fencedLines, this]

theorem return_notMem_fenceFor (payload : Text) : '\r' ∉ fenceFor payload := by
  intro h
  have := (List.mem_replicate.mp h).2
  simp at this

theorem return_notMem_opener (payload : Text) : '\r' ∉ fenceFor payload ++ outputInfo := by
  rw [List.mem_append, not_or]
  exact ⟨return_notMem_fenceFor payload, by decide⟩

/-- Of the region only the payload is read in another way. -/
theorem plainEnds_region (out : Output) :
    plainEnds out.region = (fenceFor out.payload ++ outputInfo ++ ['\n']) ++
      (plainEnds (out.payload ++ ['\n']) ++ (fenceFor out.payload ++ ['\n'])) := by
  have hopener : '\r' ∉ fenceFor out.payload ++ outputInfo ++ ['\n'] := by
    rw [List.mem_append, not_or]
    exact ⟨return_notMem_opener _, by decide⟩
  have hcloser : '\r' ∉ fenceFor out.payload ++ ['\n'] := by
    rw [List.mem_append, not_or]
    exact ⟨return_notMem_fenceFor _, by decide⟩
  have hregion : out.region = (fenceFor out.payload ++ outputInfo ++ ['\n']) ++
      ((out.payload ++ ['\n']) ++ (fenceFor out.payload ++ ['\n'])) := by
    rw [region_eq]
    simp
  rw [hregion, (IsWhole.append_newline _).plainEnds_append, plainEnds_of_notMem hopener,
    (IsWhole.append_newline _).plainEnds_append, plainEnds_of_notMem hcloser]

/-- A region without carriage returns is read as it was written. -/
theorem plainEnds_region_of_notMem {out : Output} (h : '\r' ∉ out.payload) :
    plainEnds out.region = out.region := by
  have hpayload : '\r' ∉ out.payload ++ ['\n'] := by
    rw [List.mem_append, not_or]
    exact ⟨h, by decide⟩
  rw [plainEnds_region, plainEnds_of_notMem hpayload, region_eq]
  simp

theorem lines_plainEnds_region (out : Output) :
    lines (plainEnds out.region) =
      (fenceFor out.payload ++ outputInfo) :: (out.readLines ++ [fenceFor out.payload]) := by
  have hopener : '\n' ∉ fenceFor out.payload ++ outputInfo := by
    rw [List.mem_append, not_or]
    exact ⟨newline_notMem_fenceFor _, by decide⟩
  have hlast : ∀ {l : Text}, '\r' ∉ l → l.getLast? ≠ some '\r' :=
    fun hl h => hl (List.mem_of_getLast? h)
  have hwhole : IsWhole (plainEnds (out.payload ++ ['\n'])) := (IsWhole.append_newline _).plainEnds
  rw [plainEnds_region, List.append_assoc, List.singleton_append, lines_line hopener,
    dropLast?_of_getLast?_ne (hlast (return_notMem_opener _)), lines_append hwhole,
    lines_line (newline_notMem_fenceFor _),
    dropLast?_of_getLast?_ne (hlast (return_notMem_fenceFor _))]
  rfl

end Output

/-! ## The edit as it is read again -/

namespace Edit

/-- Whole content between lines. -/
theorem splice_eq (before after : List Text) {content : Text} (h : IsWhole content) :
    splice before content after = terminated before.flatten ++ (content ++ after.flatten) := by
  unfold splice
  rw [terminated_of_isWhole h, ite_self, List.append_assoc]

/-- Of content put between lines without carriage returns only the content is read in another
way. -/
theorem plainEnds_splice {before after : List Text} {content : Text}
    (hbefore : '\r' ∉ before.flatten) (hafter : '\r' ∉ after.flatten) (h : IsWhole content) :
    plainEnds (splice before content after) = splice before (plainEnds content) after := by
  rw [splice_eq _ _ h, splice_eq _ _ h.plainEnds, (isWhole_terminated _).plainEnds_append,
    plainEnds_of_notMem (return_notMem_terminated hbefore), h.plainEnds_append,
    plainEnds_of_notMem hafter]

/-- Where the document has no carriage returns, the edited one is read again as if the content of
the edit had been read first. -/
theorem apply_plainEnds {t t' : Text} {e : Edit} (ht : '\r' ∉ t) (hcontent : IsWhole e.content)
    (h : e.apply t = .ok t') :
    { e with content := plainEnds e.content }.apply t = .ok (plainEnds t') := by
  have hlines : ∀ ls : List Text, ls.Sublist (withEnds t) → '\r' ∉ ls.flatten := by
    intro ls hls hmem
    obtain ⟨l, hl, hreturn⟩ := List.mem_flatten.mp hmem
    rw [← flatten_withEnds t] at ht
    exact ht (List.mem_flatten.mpr ⟨l, hls.subset hl, hreturn⟩)
  unfold apply at h ⊢
  dsimp only at h ⊢
  split_ifs at h ⊢
  cases h
  rw [plainEnds_splice (hlines _ (List.take_sublist _ _)) (hlines _ (List.drop_sublist _ _))
    hcontent]

end Edit

/-! ## Reading back -/

/-- What a document `t'`, read to `o'`, that was written with output below a block by the edit `e`
and is read again has to do with the document `t`, read to `o`, before. -/
structure ReadsBack (t : Text) (o : Outline) (b : Block) (out : Output) (e : Edit) (t' : Text)
    (o' : Outline) (r : OutputRegion) : Prop where
  /-- The blocks are those of before; only their lines move. -/
  blocks : o'.blocks = o.blocks.map (Block.relocate (e.moved o.lineCount o'.lineCount))
  /-- The block keeps its name and its place. -/
  found : o'.findBlock? b.name = some b
  /-- The region is the output of the block. -/
  attached : o'.attachedOutput? (lines t') b = some r
  /-- There is one more region, unless the block had output before. -/
  outputs : o'.outputs.length =
    o.outputs.length + if (o.attachedOutput? (lines t) b).isSome then 0 else 1
  /-- Between the fences of the region stand the lines of the payload. -/
  payload : ((lines t').drop r.startLine).take (r.endLine - 1 - r.startLine) = out.readLines

/-- The lines between the first and the last of some lines. -/
theorem take_drop_inner {pre inner post : List Line} {opener closer : Line} {n : ℕ}
    (hn : pre.length = n) :
    ((pre ++ (opener :: (inner ++ [closer])) ++ post).drop (n + 1)).take inner.length = inner := by
  subst hn
  simp

theorem Outline.length_outputs_relocate (f : ℕ → ℕ) (rs : List Record) :
    ((rs.map (Record.relocate f)).filterMap Record.output?).length =
      (rs.filterMap Record.output?).length := by
  have hmap : (rs.map (Record.relocate f)).filterMap Record.output? =
      (rs.filterMap Record.output?).map (OutputRegion.relocate f) := by
    rw [List.filterMap_map, List.map_filterMap]
    exact List.filterMap_congr fun r _ => by cases r <;> rfl
  rw [hmap, List.length_map]

section

variable {t t' name : Text} {o : Outline} {b : Block} {out : Output} {items : List Item}
  {c : Cut (lines t) items}

/-- The document that is read again, if the payload stays open. -/
theorem Cut.Follows.readsBack (hc : c.Follows b (o.attachedOutput? (lines t) b))
    (ho : o = ⟨(lines t).length, items.filterMap Item.record?,
      Outline.withImplicit (lines t) (items.filterMap Item.slide?)⟩)
    (hb : o.findBlock? b.name = some b) (h : out.StaysOpen)
    (hlines : lines t' = c.front ++ (lines (Cut.gap (o.attachedOutput? (lines t) b)) ++
      (out.readRegion h).lines) ++ c.back) :
    ∃ o' r, Outline.parse t' = .ok o' ∧
      ReadsBack t o b out (o.recordingEdit (lines t) b out) t' o' r := by
  have hblank : ∀ l ∈ lines (Cut.gap (o.attachedOutput? (lines t) b)), allBlank l = true :=
    fun l hl => Cut.blank_of_mem_lines_gap hl
  rw [hc.recordingEdit_eq out]
  set attached? := o.attachedOutput? (lines t) b with hatt
  obtain ⟨last, hread⟩ := c.reads_replaced (Cut.gap attached? ++ out.region) hblank
    (out.readRegion h)
  rw [← hlines, Output.record_readRegion] at hread
  set n := c.front.length + (lines (Cut.gap attached?)).length with hn
  have hparse := Outline.parse_eq_ok_iff.mpr ⟨last, _, hread, rfl⟩
  refine ⟨_, ⟨n + 1, n + (out.readRegion h).height⟩, hparse, {
    blocks := ?blocks, found := ?found, attached := ?attached, outputs := ?outputs,
    payload := ?payload }⟩
  case blocks =>
    rw [ho]
    simp only [Outline.blocks, List.filterMap_filterMap]
    refine hc.filterMap_moved (c.map_moved_before _ _) _ ?_ (fun _ => rfl)
    intro i
    rcases i with (_ | _) | _ <;> rfl
  case found =>
    rw [ho] at hb
    rw [Outline.findBlock?, Outline.blocks, List.append_assoc]
    exact hc.find?_moved hb _
  case attached =>
    refine hc.attachedOutput?_moved hblank (out.readRegion h) hparse hlines ?_ rfl
    exact Outline.mem_outputs_iff.mpr (Outline.mem_records_iff.mpr (by simp))
  case outputs =>
    obtain ⟨before, after, hbefore, hafter⟩ := hc.records_moved
      ((c.edit (Cut.gap attached? ++ out.region)).moved (lines t).length (lines t').length)
      ⟨n + 1, n + (out.readRegion h).height⟩
    rw [← hatt]
    simp only [Outline.outputs]
    rw [hafter, ho, hbefore]
    simp only [List.filterMap_append, List.length_append, Outline.length_outputs_relocate]
    cases attached? with
    | none =>
      simp [Record.output?]
      omega
    | some q =>
      simp [Record.output?]
  case payload =>
    have hheight : n + (out.readRegion h).height - 1 - (n + 1) = out.readLines.length := by
      show n + (out.readLines.length + 2) - 1 - (n + 1) = _
      omega
    have hsplit : lines t' = (c.front ++ lines (Cut.gap attached?)) ++
        (out.fencedLines.opener :: (out.readLines ++ [out.fencedLines.closer])) ++ c.back := by
      rw [hlines, ← List.append_assoc]
      rfl
    rw [hheight, hsplit]
    exact take_drop_inner (by rw [List.length_append])

/-- A payload whose lines stand between the fences of a region stays open. -/
theorem Cut.Follows.staysOpen (hc : c.Follows b (o.attachedOutput? (lines t) b))
    (hlines : lines t' = c.front ++ (lines (Cut.gap (o.attachedOutput? (lines t) b)) ++
      out.fencedLines.opener :: (out.readLines ++ [out.fencedLines.closer])) ++ c.back)
    {o' : Outline} (ho' : Outline.parse t' = .ok o') {r : OutputRegion}
    (hr : o'.attachedOutput? (lines t') b = some r)
    (hpayload : ((lines t').drop r.startLine).take (r.endLine - 1 - r.startLine) = out.readLines) :
    out.StaysOpen := by
  have hblank : ∀ l ∈ lines (Cut.gap (o.attachedOutput? (lines t) b)), allBlank l = true :=
    fun l hl => Cut.blank_of_mem_lines_gap hl
  have hopener : allBlank out.fencedLines.opener = false :=
    Fence.allBlank_eq_false_of_ofLine? out.fencedLines.opens
  set bs := lines (Cut.gap (o.attachedOutput? (lines t) b)) with hbs
  have hsplit : lines t' = c.front ++ (bs ++ out.fencedLines.opener ::
      (out.readLines ++ [out.fencedLines.closer] ++ c.back)) := by
    rw [hlines]
    simp
  -- the region begins where the fence was written
  obtain ⟨hmem, hstart⟩ := (Outline.outputAt?_eq_some_iff ho').mp hr
  rw [hsplit, hc.skipBlanks_moved hblank hopener] at hstart
  obtain ⟨last, items', hread, rfl⟩ := Outline.parse_eq_ok_iff.mp ho'
  obtain ⟨pre, g, post, mid, before, after, hls, hpre, hg, -, -⟩ := hread.record_inv
    (Outline.mem_records_iff.mp (Outline.mem_outputs_iff.mp hmem))
  have hcount : mid.count = pre.length := by rw [hpre.count_end]; simp [Scan.start]
  have hfirst : r.startLine = mid.count + 1 := (congrArg Record.startLine hg).trans
    (FencedLines.startLine_record g _)
  have hend : r.endLine = mid.count + g.height := (congrArg Record.endLine hg).trans
    (FencedLines.endLine_record g _)
  have hinner : g.inner = out.readLines := by
    rw [← hpayload, hls, show r.endLine - 1 - r.startLine = g.inner.length by
      rw [hfirst, hend, FencedLines.height]; omega, hfirst, hcount]
    exact (take_drop_inner rfl).symm
  have heq : g.opener = out.fencedLines.opener := by
    have hthere : (lines t')[pre.length]? = some g.opener := by
      rw [hls]
      simp [FencedLines.lines]
    have hhere : (lines t')[c.front.length + bs.length]? = some out.fencedLines.opener := by
      rw [hsplit, ← List.append_assoc, ← List.length_append, List.getElem?_append_right le_rfl]
      simp
    rw [show pre.length = c.front.length + bs.length by omega, hhere] at hthere
    exact (Option.some.inj hthere).symm
  have hfence : g.fence = Output.opening out.payload := by
    have hopens := g.opens
    rw [heq, out.fencedLines.opens] at hopens
    exact (Option.some.inj hopens).symm
  intro l hl
  rw [← hfence]
  exact g.keepsOpen l (hinner ▸ hl)

end

/-- **Reading a document with recorded output again.**  The document is read back exactly when no
line of the payload, as it is read again, closes the region. -/
theorem recordingEdit_readsBack_iff {t t' : Text} {o : Outline} {b : Block} (ht : '\r' ∉ t)
    (ho : Outline.parse t = .ok o) (hb : o.findBlock? b.name = some b) (out : Output)
    (happly : (o.recordingEdit (lines t) b out).apply t = .ok t') :
    (∃ o' r, Outline.parse (plainEnds t') = .ok o' ∧
      ReadsBack t o b out (o.recordingEdit (lines t) b out) (plainEnds t') o' r) ↔
    out.StaysOpen := by
  obtain ⟨items, c, hitems, hc⟩ := Outline.exists_cut ho (Outline.mem_of_findBlock? hb)
  have hgap : IsWhole (Cut.gap (o.attachedOutput? (lines t) b)) := Cut.isWhole_gap
  have hreturn : '\r' ∉ Cut.gap (o.attachedOutput? (lines t) b) := by
    unfold Cut.gap
    split_ifs
    · simp
    · simp
  -- the text is that of the edit with its content as it is read again
  have hlines : lines (plainEnds t') = c.front ++
      (lines (Cut.gap (o.attachedOutput? (lines t) b)) ++ out.fencedLines.opener ::
        (out.readLines ++ [out.fencedLines.closer])) ++ c.back := by
    have hwhole : IsWhole (Cut.gap (o.attachedOutput? (lines t) b) ++ out.region) :=
      hgap.append out.isWhole_region
    rw [hc.recordingEdit_eq out] at happly
    obtain ⟨u, hu, -, hlines⟩ := c.withEnds_replaced hwhole.plainEnds
    have hread := Edit.apply_plainEnds ht hwhole happly
    rw [Cut.edit] at hread
    rw [Cut.edit, hread] at hu
    rw [Except.ok.inj hu, hlines, hgap.plainEnds_append, plainEnds_of_notMem hreturn,
      lines_append hgap, Output.lines_plainEnds_region]
    rfl
  constructor
  · rintro ⟨o', r, hparse, hback⟩
    exact hc.staysOpen hlines hparse hback.attached hback.payload
  · intro h
    exact hc.readsBack hitems hb h hlines

end Literate

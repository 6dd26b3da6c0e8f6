import Mathlib
import Literate.Markdown.Render
import Literate.Page.Fenced
import Literate.Proofs.Recording.Region
import Literate.Proofs.Text.PlainEnds

/-!
# A text that is one fenced block

The outline and markdown look for fences each in its own way: markdown counts columns up to tab
stops, the outline counts spaces.  A line that leaves a fence open in the outline leaves it open in
markdown too, so what the outline takes for one fenced range is one fenced block on a page, and
nothing inside it is looked at as markdown.

* `SourceLine.ofText_flatMap`: the lines of a text as markdown sees them.
* `not_closes_of_keepsOpen`: what leaves a fence open in the outline leaves it open here.
* `fenceLines_append`: the lines up to the closing fence.
* `Block.ofText_fenced`: a text that is one fenced block.
* `html_region`: the region of an output as markup.
-/

namespace Literate.Markdown

open Text

/-! ## Lines -/

namespace SourceLine

theorem gap_fst (offset column : ℕ) (t : Text) :
    (gap offset column t).1 = (t.takeWhile isGap).length := by
  induction t generalizing column with
  | nil => rfl
  | cons c t ih =>
    unfold gap
    split_ifs with hspace htab
    · simp [hspace, isGap, ih]
    · simp [htab, isGap, ih]
    · simp [isGap, hspace, htab]

theorem le_gap_snd (offset column : ℕ) (t : Text) : column ≤ (gap offset column t).2 := by
  induction t generalizing column with
  | nil => exact le_rfl
  | cons c t ih =>
    unfold gap
    split_ifs
    · exact (Nat.le_succ column).trans (ih _)
    · exact (Nat.le_add_right column _).trans (ih _)
    · exact le_rfl

/-- A gap that does not reach the first tab stop is one of spaces. -/
theorem takeWhile_isGap_of_gap_lt {column : ℕ} {t : Text} (h : (gap 0 column t).2 < 4) :
    ∃ n, t.takeWhile isGap = List.replicate n ' ' ∧ n ≤ (gap 0 column t).2 - column := by
  induction t generalizing column with
  | nil => exact ⟨0, rfl, Nat.zero_le _⟩
  | cons c t ih =>
    unfold gap at h ⊢
    split_ifs at h ⊢ with hspace htab
    · obtain ⟨n, hn, hle⟩ := ih h
      refine ⟨n + 1, by simp [hspace, isGap, hn, List.replicate_succ], ?_⟩
      have := le_gap_snd 0 (column + 1) t
      show n + 1 ≤ (gap 0 (column + 1) t).2 - column
      omega
    · have hstop : column + (4 - (column + 0) % 4) < 4 := (le_gap_snd _ _ _).trans_lt h
      omega
    · exact ⟨0, by simp [isGap, hspace, htab], Nat.zero_le _⟩

theorem body_plain (l : Line) (ended : Bool) : (plain l ended).body = l.dropWhile isGap := by
  show l.drop (gap 0 0 l).1 = _
  have hsplit := List.takeWhile_append_dropWhile (p := isGap) (l := l)
  rw [gap_fst]
  nth_rewrite 2 [← hsplit]
  exact List.drop_left

theorem isOutside_plain {p : Place} (hp : p.indent = 0) (l : Line) (ended : Bool) :
    (plain l ended).isOutside p = false := by
  simp [isOutside, plain, hp]

theorem cut_zero (l : SourceLine) : l.cut 0 = l.text := by
  unfold cut cutFrom
  split
  · simp [‹l.text = _›]
  · simp [‹l.text = _›]

theorem joinWithEnds_plain (ls : List Line) :
    joinWithEnds 0 (ls.map (plain · true)) = ls.flatMap (· ++ ['\n']) := by
  rw [joinWithEnds, List.flatMap_map]
  exact List.flatMap_congr fun l _ => by rw [cut_zero]; rfl

theorem rawLines_line {l : Line} (hl : '\n' ∉ l) (t : Text) :
    rawLines (l ++ '\n' :: t) = (l, true) :: rawLines t := by
  induction l with
  | nil => simp [rawLines]
  | cons c l ih =>
    rw [List.mem_cons, not_or] at hl
    rw [List.cons_append, rawLines, if_neg (Ne.symm hl.1), ih hl.2]

theorem rawLines_flatMap {ls : List Line} (h : ∀ l ∈ ls, '\n' ∉ l) :
    rawLines (ls.flatMap (· ++ ['\n'])) = ls.map (·, true) := by
  induction ls with
  | nil => rfl
  | cons l ls ih =>
    rw [List.flatMap_cons, List.append_assoc, List.singleton_append, rawLines_line (h l (by simp)),
      ih fun m hm => h m (by simp [hm]), List.map_cons]

/-- **The lines of a text** as markdown sees them, when every one of them is ended by a newline. -/
theorem ofText_flatMap {ls : List Line} (h : ∀ l ∈ ls, '\n' ∉ l)
    (hfront : ls.head?.bind List.head? ≠ some '-') :
    ofText (ls.flatMap (· ++ ['\n'])) = ls.map (plain · true) := by
  have hvisible : (ls.map (·, true)).filter (fun x : Text × Bool => x.2 || !x.1.all isGap) =
      ls.map (·, true) := by
    rw [List.filter_eq_self]
    intro x hx
    obtain ⟨l, -, rfl⟩ := List.mem_map.mp hx
    rfl
  unfold ofText
  simp only [rawLines_flatMap h]
  rw [hvisible]
  cases ls with
  | nil => rfl
  | cons l ls =>
    have hfirst : (plain l true).text.head? ≠ some '-' := hfront
    simp only [List.map_cons, List.map_map, hfirst, decide_false]
    rfl

end SourceLine

/-! ## Fences -/

/-- What would close a fence on a page closes it in the outline: a run of its character that is long
enough, before the first tab stop and with nothing visible after it. -/
theorem not_closes_of_keepsOpen {f : Fence} (hf : f.Proper) {l : Line} (h : f.KeepsOpen l)
    {n : ℕ} (hn : ((l.dropWhile isGap).takeWhile (· == f.kind.char)).length = n)
    (hlength : f.length ≤ n) (hcode : (SourceLine.gap 0 0 l).2 < 4) :
    ((l.dropWhile isGap).drop n).all isGap = false := by
  by_contra hrest
  rw [Bool.not_eq_false] at hrest
  obtain ⟨indent, hindent, hle⟩ := SourceLine.takeWhile_isGap_of_gap_lt hcode
  have hgaps : ∀ c ∈ (l.dropWhile isGap).drop n, isGap c = true := List.all_eq_true.mp hrest
  have hnot : f.kind.char ∉ (l.dropWhile isGap).drop n := by
    intro hmem
    have := hgaps _ hmem
    cases hk : f.kind <;> simp [hk, FenceKind.char, isGap] at this
  -- the line as the outline reads it
  let g : Fence := ⟨indent, f.kind, n, (l.dropWhile isGap).drop n⟩
  have hproper : g.Proper :=
    { indent_le := by show indent ≤ 3; omega
      three_le := hf.three_le.trans hlength
      head_rest := fun hhead => hnot (List.mem_of_head? hhead)
      backtick_notMem := by
        intro hk hmem
        exact hnot (by rwa [show f.kind = .backtick from hk]) }
  have hwritten : l = g.written := by
    have hmarker : g.marker = (l.dropWhile isGap).takeWhile (· == f.kind.char) := by
      rw [eq_replicate_takeWhile, hn]
      rfl
    have hdrop : g.rest = (l.dropWhile isGap).dropWhile (· == f.kind.char) := by
      show (l.dropWhile isGap).drop n = _
      nth_rewrite 1 [← List.takeWhile_append_dropWhile (p := (· == f.kind.char))
        (l := l.dropWhile isGap)]
      rw [← hn, List.drop_left]
    rw [Fence.written, hmarker, hdrop, List.takeWhile_append_dropWhile, ← hindent,
      List.takeWhile_append_dropWhile]
  have hclosed := h g (Fence.ofLine?_eq_some_iff.mpr ⟨hproper, hwritten⟩)
  simp [Fence.closes, g, hlength] at hclosed

variable {p : Place} {f : Fence}

theorem isGap_char (k : FenceKind) : isGap k.char = false := by cases k <;> decide

theorem exists_marker_append (hf : f.Proper) (t : Text) :
    ∃ r, f.marker ++ t = f.kind.char :: r := by
  have hlength := hf.three_le
  obtain ⟨n, hn⟩ : ∃ n, f.length = n + 1 := ⟨f.length - 1, by omega⟩
  exact ⟨List.replicate n f.kind.char ++ t, by rw [Fence.marker, hn]; rfl⟩

theorem takeWhile_marker_append {t : Text} (ht : t.head? ≠ some f.kind.char) :
    ((f.marker ++ t).takeWhile (· == f.kind.char)).length = f.length := by
  rw [Fence.marker, takeWhile_replicate_append _ ht, List.length_replicate]

theorem drop_marker_append (t : Text) : (f.marker ++ t).drop f.length = t := by
  have hlength : f.marker.length = f.length := List.length_replicate
  rw [← hlength, List.drop_left]

/-- A fence without indentation is the body of its line. -/
theorem body_marker (hf : f.Proper) (t : Text) (ended : Bool) :
    (SourceLine.plain (f.marker ++ t) ended).body = f.marker ++ t := by
  obtain ⟨r, hr⟩ := exists_marker_append hf t
  rw [SourceLine.body_plain, hr, List.dropWhile_cons_of_neg (by simp [isGap_char])]

theorem indent_marker (hf : f.Proper) (t : Text) (ended : Bool) :
    (SourceLine.plain (f.marker ++ t) ended).indent = 0 := by
  obtain ⟨r, hr⟩ := exists_marker_append hf t
  have hgap := isGap_char f.kind
  simp only [isGap, Bool.or_eq_false_iff, decide_eq_false_iff_not] at hgap
  simp [SourceLine.plain, hr, SourceLine.gap, hgap.1, hgap.2]

theorem isCode_marker (hp : p.indent = 0) (hf : f.Proper) (t : Text) (ended : Bool) :
    (SourceLine.plain (f.marker ++ t) ended).isCode p = false := by
  simp [SourceLine.isCode, indent_marker hf, hp]

/-- The content of a fenced block: the lines that leave its fence open, up to the one that closes
it. -/
theorem fenceLines_append (hp : p.indent = 0) (hf : f.Proper) {ls : List Line}
    (h : ∀ l ∈ ls, f.KeepsOpen l) (rest : List SourceLine) :
    fenceLines p f.kind.char f.length
        (ls.map (.plain · true) ++ .plain f.marker true :: rest) =
      (ls.map (.plain · true), rest) := by
  induction ls with
  | nil =>
    have hbody := body_marker hf [] true
    have hcode := isCode_marker hp hf [] true
    have htake := takeWhile_marker_append (f := f) (t := []) (by simp)
    have hdrop := drop_marker_append (f := f) []
    rw [List.append_nil] at hbody hcode htake hdrop
    have hpos : 0 < f.length := by have := hf.three_le; omega
    rw [List.map_nil, List.nil_append, fenceLines, hbody, htake, hcode, hdrop,
      SourceLine.isOutside_plain hp, Bool.and_false, if_neg (by simp), if_pos (by simp [hpos])]
  | cons l ls ih =>
    rw [List.map_cons, List.cons_append, fenceLines, SourceLine.isOutside_plain hp,
      SourceLine.body_plain, Bool.and_false, if_neg (by simp), ih fun m hm => h m (by simp [hm])]
    generalize hn : ((l.dropWhile isGap).takeWhile (· == f.kind.char)).length = n
    refine if_neg fun hcloses => ?_
    simp only [Bool.and_eq_true, decide_eq_true_eq, Bool.not_eq_true'] at hcloses
    obtain ⟨⟨⟨-, hlength⟩, hcode⟩, hrest⟩ := hcloses
    have hlt : (SourceLine.gap 0 0 l).2 < 4 := by
      simpa [SourceLine.isCode, SourceLine.plain, hp] using hcode
    rw [not_closes_of_keepsOpen hf (h l (by simp)) hn hlength hlt] at hrest
    cases hrest

theorem fenceRun?_marker (hf : f.Proper) :
    fenceRun? (f.marker ++ f.rest) = some (f.kind.char, f.length, f.rest) := by
  have htake := takeWhile_marker_append hf.head_rest
  have hdrop := drop_marker_append (f := f) f.rest
  have hshort : ¬ f.length < 3 := by have := hf.three_le; omega
  obtain ⟨r, hr⟩ := exists_marker_append hf f.rest
  rw [hr] at htake hdrop ⊢
  unfold fenceRun?
  simp only [htake, hdrop]
  cases hk : f.kind with
  | backtick => simp [FenceKind.char, hshort, hf.backtick_notMem hk]
  | tilde => simp [FenceKind.char, hshort]

/-! ## Blocks -/

theorem isEmpty_eq (l : SourceLine) : l.isEmpty = l.body.isEmpty := by
  rw [Bool.eq_iff_iff, List.isEmpty_iff, SourceLine.body, List.drop_eq_nil_iff]
  simp [SourceLine.isEmpty]

/-- Only a line that holds a bar is the head of a table. -/
theorem table?_eq_none {l : SourceLine} (h : '|' ∉ l.body) (rest : List SourceLine) :
    table? p (l :: rest) = none := by
  cases rest with
  | nil => rfl
  | cons ruler rest =>
    have hhead : tableHead? p l ruler = none := by
      unfold tableHead?
      split_ifs
      · rfl
      · split
        · rfl
        · simp [h]
    rw [table?, hhead]

/-- The lines of a fenced range without indentation, whose first one cannot be the head of a
table. -/
theorem readBlocks_fenced (hp : p.indent = 0) (hdepth : p.depth < depthLimit) (hf : f.Proper)
    (hbar : '|' ∉ f.rest) {ls : List Line} (h : ∀ l ∈ ls, f.KeepsOpen l) (n : ℕ) :
    (readBlocks p false true (n + 3) (.plain (f.marker ++ f.rest) true ::
        (ls.map (.plain · true) ++ [.plain f.marker true]))).blocks =
      [.fence f.rest (ls.flatMap (· ++ ['\n']))] := by
  generalize hl : SourceLine.plain (f.marker ++ f.rest) true = l
  have hbody : l.body = f.marker ++ f.rest := hl ▸ body_marker hf _ _
  have hcode : l.isCode p = false := hl ▸ isCode_marker hp hf _ _
  have hinside : l.isOutside p = false := hl ▸ SourceLine.isOutside_plain hp _ _
  have hempty : l.isEmpty = false := by
    obtain ⟨r, hr⟩ := exists_marker_append hf f.rest
    rw [isEmpty_eq, hbody, hr]
    rfl
  have hindent : l.indent = 0 := hl ▸ indent_marker hf _ _
  have hfront : ∀ rest, frontMatter? p (l :: rest) = none := by
    intro rest
    rw [← hl]
    rfl
  have hnobar : '|' ∉ l.body := by
    rw [hbody, List.mem_append, not_or]
    refine ⟨fun hmem => ?_, hbar⟩
    have := (List.mem_replicate.mp hmem).2
    cases hk : f.kind <;> simp [hk, FenceKind.char] at this
  have hblock : readBlock p (n + 2) l (ls.map (.plain · true) ++ [.plain f.marker true]) =
      (some (.fence f.rest (ls.flatMap (· ++ ['\n']))), []) := by
    rw [readBlock, hfront, table?_eq_none hnobar, hcode, if_neg (by simp), hbody,
      fenceRun?_marker hf]
    simp only [fenceAt, fenceLines_append hp hf h, hindent, Int.toNat_zero,
      SourceLine.joinWithEnds_plain]
  have hskip : ∀ rest, (l :: rest).dropWhile SourceLine.isEmpty = l :: rest :=
    fun rest => List.dropWhile_cons_of_neg (by simp [hempty])
  have hdepth' : ¬ depthLimit ≤ p.depth := by omega
  rw [readBlocks, hskip]
  simp [hinside, hdepth', hblock, readBlocks]

/-- **A text that is one fenced block**: a fence without indentation, lines that leave it open, and
the run of characters that closes it. -/
theorem Block.ofText_fenced (hf : f.Proper) (hindent : f.indent = 0) (hbar : '|' ∉ f.rest)
    {ls : List Line} (h : ∀ l ∈ ls, f.KeepsOpen l) {t : Text} (ht : IsWhole t)
    (hlines : lines t = f.written :: (ls ++ [f.marker])) (hreturn : '\r' ∉ t) (hnul : '\x00' ∉ t) :
    Block.ofText t = [.fence f.rest (ls.flatMap (· ++ ['\n']))] := by
  have hnormal : normalised t = t := by
    rw [normalised, plainEnds_of_notMem hreturn]
    nth_rewrite 2 [← List.map_id t]
    refine List.map_congr_left fun c hc => if_neg ?_
    rintro rfl
    exact hnul hc
  have hwritten : f.written = f.marker ++ f.rest := by
    rw [Fence.written, hindent]
    rfl
  have hfront : (lines t).head?.bind List.head? ≠ some '-' := by
    obtain ⟨r, hr⟩ := exists_marker_append hf f.rest
    rw [hlines, List.head?_cons, Option.bind_some, hwritten, hr]
    cases hk : f.kind <;> simp [FenceKind.char]
  have hsource : SourceLine.ofText (normalised t) = .plain (f.marker ++ f.rest) true ::
      (ls.map (.plain · true) ++ [.plain f.marker true]) := by
    have := SourceLine.ofText_flatMap (fun l => newline_notMem_of_mem_lines (l := l)) hfront
    rw [flatMap_lines ht hreturn] at this
    rw [hnormal, this, hlines, List.map_cons, List.map_append, List.map_singleton, hwritten]
  unfold Block.ofText
  simp only [hsource]
  exact readBlocks_fenced rfl (by decide) hf hbar h _

/-- **The region of an output as markup** is the box of its payload. -/
theorem html_region {o : Output} (hreturn : '\r' ∉ o.payload) (hnul : '\x00' ∉ o.payload) :
    html Fenced.html o.region = Fenced.outputHtml (o.payload ++ ['\n']) := by
  have hmem : ∀ {c : Char}, c ∉ o.payload → c ≠ '\n' → c ≠ '\x60' → c ∉ outputInfo →
      c ∉ o.region := by
    intro c hpayload hnewline htick hinfo
    have hfence : c ∉ Output.fenceFor o.payload := fun h => htick (List.mem_replicate.mp h).2
    simp [Output.region_eq, hpayload, hnewline, hinfo, hfence]
  have hblocks := Block.ofText_fenced (Output.opening_proper o.payload) rfl
    (show '|' ∉ outputInfo by decide) (fun l => Output.keepsOpen_payload o.payload)
    o.isWhole_region o.lines_region (hmem hreturn (by decide) (by decide) (by decide))
    (hmem hnul (by decide) (by decide) (by decide))
  have hcontent : '\r' ∉ o.payload ++ ['\n'] := by simp [hreturn]
  have hinfo : (trim outputInfo == outputInfo) = true := by decide
  rw [flatMap_lines (.append_newline _) hcontent] at hblocks
  unfold html
  rw [hblocks]
  show Fenced.html outputInfo (o.payload ++ ['\n']) ++ [] = _
  rw [List.append_nil, Fenced.html, if_pos hinfo]

end Literate.Markdown

import Mathlib
import Literate.Proofs.Exclusion.Preservation

/-!
# Some of the kept lines

A part of what is kept of a document is a document too, as long as no record is cut: its ranges are
those whose lines were taken.

* `Entry.filter_mem_of_sublist`, `Entry.filter_number_append`: parts of a list of numbered lines.
* `Exclusion.exists_layout_filter`: the layout of the lines that were taken.
* `Exclusion.IsImage.behind`: a range with lines put in front of the document.
-/

namespace Literate

open Text

namespace Entry

theorem nodup_of_increasing {es : List Entry} (h : (es.map number).Pairwise (· < ·)) : es.Nodup :=
  .of_map number (h.imp fun hlt => hlt.ne)

/-- The members of a part are all that is taken when each line of the document occurs once. -/
theorem filter_mem_of_sublist {part es : List Entry} (hes : es.Nodup) (h : part.Sublist es) :
    es.filter (fun e => decide (e ∈ part)) = part := by
  induction h with
  | slnil => rfl
  | @cons part es e h ih =>
    obtain ⟨he, hes⟩ := List.nodup_cons.mp hes
    have hpart : e ∉ part := fun hmem => he (h.subset hmem)
    rw [List.filter_cons_of_neg (by simpa using hpart), ih hes]
  | @cons_cons part es e h ih =>
    obtain ⟨he, hes⟩ := List.nodup_cons.mp hes
    have hother : ∀ f ∈ es, decide (f ∈ e :: part) = decide (f ∈ part) := by
      intro f hf
      have hne : f ≠ e := fun heq => he (heq ▸ hf)
      simp [hne]
    rw [List.filter_cons_of_pos (by simp), List.filter_congr hother, ih hes]

/-- Lines with increasing numbers are those in front of line `n` and then the others. -/
theorem filter_number_append {es : List Entry} (h : (es.map number).Pairwise (· < ·)) (n : ℕ) :
    es.filter (fun e => decide (e.number < n)) ++ es.filter (fun e => decide (n ≤ e.number)) =
      es := by
  induction es with
  | nil => rfl
  | cons e es ih =>
    rw [List.map_cons, List.pairwise_cons] at h
    by_cases he : e.number < n
    · rw [List.filter_cons_of_pos (by simpa using he), List.filter_cons_of_neg (by simpa using he),
        List.cons_append, ih h.2]
    · have hbehind : ∀ f ∈ e :: es, n ≤ f.number := by
        refine List.forall_mem_cons.mpr ⟨not_lt.mp he, fun f hf => ?_⟩
        exact (not_lt.mp he).trans (h.1 f.number (List.mem_map_of_mem hf)).le
      rw [List.filter_eq_nil_iff.mpr fun f hf => by simpa using hbehind f hf,
        List.filter_eq_self.mpr fun f hf => by simpa using hbehind f hf, List.nil_append]

end Entry

namespace Exclusion

variable {P : Line → Prop}

/-- The lines of a range are among those kept, under the numbers they had. -/
theorem IsImage.mem {kept : List Entry} {p q : ℕ × FencedLines} (h : IsImage kept p q) {e : Entry}
    (he : e ∈ Entry.numbered (p.1 + 1) q.2.lines) : e ∈ kept := by
  obtain ⟨pre, post, rfl, -⟩ := h.place
  simp [he]

/-- A range that stays has the height it had. -/
theorem IsImage.height_eq {kept : List Entry} {p q : ℕ × FencedLines} (h : IsImage kept p q) :
    q.2.height = p.2.height := by
  rw [FencedLines.height, FencedLines.height, h.inner_eq]

/-- The lines of a range that stays are lines of its record. -/
theorem IsImage.holds {kept : List Entry} {p q : ℕ × FencedLines} (h : IsImage kept p q) {e : Entry}
    (he : e ∈ Entry.numbered (p.1 + 1) q.2.lines) : (p.2.record p.1).holds e.number = true := by
  have := holds_of_mem_numbered (p := (p.1, q.2)) he
  rwa [Record.holds_iff, FencedLines.startLine_record, FencedLines.endLine_record, h.height_eq,
    ← p.2.endLine_record, ← p.2.startLine_record, ← Record.holds_iff] at this

/-- A range stands among other lines too when its own lines are there. -/
theorem IsImage.move {kept kept' : List Entry} {p q : ℕ × FencedLines} (h : IsImage kept p q)
    {pre post : List Entry}
    (hplace : kept' = pre ++ Entry.numbered (p.1 + 1) q.2.lines ++ post) :
    IsImage kept' p (pre.length, q.2) :=
  { h with place := ⟨pre, post, hplace, rfl⟩ }

/-- **The layout of some lines.**  The lines that `Q` takes have a layout when it takes the lines of
each range all or not at all; `done` are the lines before. -/
theorem exists_layout_filter {Q : Entry → Bool} {whole : ℕ × FencedLines → Bool} {n : ℕ}
    {ls : List Line} {hs : List (ℕ × FencedLines)} (h : Layout P n ls hs) :
    ∀ (done es : List Entry) (gs : List (ℕ × FencedLines)), es.map Entry.text = ls →
      done.length = n → List.Forall₂ (IsImage (done ++ es)) gs hs →
      (∀ p ∈ gs, ∀ e ∈ done ++ es, (p.2.record p.1).holds e.number = true → Q e = whole p) →
      ∃ hs', Layout P (done.filter Q).length ((es.filter Q).map Entry.text) hs' ∧
        List.Forall₂ (IsImage ((done ++ es).filter Q)) (gs.filter whole) hs' := by
  induction h with
  | nil =>
    intro done es gs hes hdone himages hQ
    obtain rfl := List.map_eq_nil_iff.mp hes
    cases himages
    exact ⟨[], .nil, .nil⟩
  | @line n l ls hs hl hp rest ih =>
    intro done es gs hes hdone himages hQ
    obtain ⟨e, es, rfl, rfl, rfl⟩ := List.map_eq_cons_iff.mp hes
    have hsplit : done ++ e :: es = done ++ [e] ++ es := by simp
    rw [hsplit] at himages hQ ⊢
    obtain ⟨hs', hlayout, himages'⟩ := ih (done ++ [e]) es gs rfl (by simp [hdone]) himages hQ
    refine ⟨hs', ?_, himages'⟩
    rw [List.filter_append] at hlayout
    cases he : Q e with
    | true =>
      rw [List.filter_cons_of_pos he, List.map_cons]
      refine .line hl hp ?_
      simpa [he] using hlayout
    | false =>
      rw [List.filter_cons_of_neg (by simp [he])]
      simpa [he] using hlayout
  | @range n ls hs g rest ih =>
    intro done es gs hes hdone himages hQ
    cases himages with
    | @cons p _ gs _ himage himages =>
    obtain ⟨pre, post, hplace, hpre⟩ := himage.place
    rw [List.append_assoc] at hplace
    obtain ⟨rfl, rfl⟩ := List.append_inj hplace (by rw [hdone, hpre])
    dsimp only at himage
    rw [List.map_append, Entry.map_text_numbered] at hes
    have hpost : post.map Entry.text = ls := List.append_cancel_left hes
    rw [← List.append_assoc] at himages hQ ⊢
    obtain ⟨hs', hlayout, himages'⟩ := ih (done ++ Entry.numbered (p.1 + 1) g.lines) post gs hpost
      (by rw [List.length_append, Entry.length_numbered, FencedLines.length_lines, hdone]) himages
      fun q hq => hQ q (List.mem_cons_of_mem p hq)
    have hrange : ∀ e ∈ Entry.numbered (p.1 + 1) g.lines, Q e = whole p := fun e he =>
      hQ p List.mem_cons_self e (by simp [he]) (himage.holds he)
    rw [List.filter_append, List.filter_append] at himages' ⊢
    rw [List.filter_append] at hlayout ⊢
    cases hw : whole p with
    | true =>
      have hall : (Entry.numbered (p.1 + 1) g.lines).filter Q = Entry.numbered (p.1 + 1) g.lines :=
        List.filter_eq_self.mpr fun e he => (hrange e he).trans hw
      rw [hall] at himages' hlayout ⊢
      rw [List.length_append, Entry.length_numbered, FencedLines.length_lines] at hlayout
      rw [List.filter_cons_of_pos hw, List.map_append, Entry.map_text_numbered]
      exact ⟨_ :: hs', .range g hlayout, .cons (himage.move rfl) himages'⟩
    | false =>
      have hnone : (Entry.numbered (p.1 + 1) g.lines).filter Q = [] :=
        List.filter_eq_nil_iff.mpr fun e he => by simp [hrange e he, hw]
      rw [hnone, List.append_nil] at himages' hlayout
      rw [hnone, List.nil_append, List.append_nil, List.filter_cons_of_neg (by simp [hw])]
      exact ⟨hs', hlayout, himages'⟩

/-- Lines outside fences in front of a document move its ranges down. -/
theorem IsImage.behind {kept : List Entry} {p q : ℕ × FencedLines} (h : IsImage kept p q)
    (front : List Entry) : IsImage (front ++ kept) p (q.1 + front.length, q.2) := by
  obtain ⟨pre, post, rfl, hpre⟩ := h.place
  have hplace : front ++ (pre ++ Entry.numbered (p.1 + 1) q.2.lines ++ post) =
      front ++ pre ++ Entry.numbered (p.1 + 1) q.2.lines ++ post := by simp
  have hmoved := h.move hplace
  rwa [List.length_append, hpre, Nat.add_comm front.length] at hmoved

end Exclusion

end Literate

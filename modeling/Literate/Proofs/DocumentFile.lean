import Mathlib
import Literate.DocumentFile
import Literate.Proofs.Recording.Reread
import Literate.Proofs.Text.Utf8

/-!
# What recording keeps of a file

A file is cut into what stands before, in and after the lines that are replaced.  The lines are
those of the text as it is read, so a line may end at a carriage return; what stands before and
after them is written as it was read, and differs from what was in the file exactly where there are
carriage returns.

* `documentText_eq_ok_iff`: the text of a file.
* `record_inv`: what it takes to record output.
* `InPlace`: what is written, in terms of the pieces of the file.
* `record_inPlace`: recording writes that.
* `terminated_plainEnds_eq_iff`: the pieces are kept exactly when they have no carriage returns.
-/

namespace Literate

open Text Edit

/-! ## The text of a file -/

theorem documentText_eq_ok_iff {content : Bytes} {t : Text} :
    documentText content = .ok t ↔ ∃ raw, content = Utf8.encode raw ∧ plainEnds raw = t := by
  unfold documentText
  constructor
  · intro h
    cases hdecode : Utf8.decode content with
    | error e => simp [hdecode] at h
    | ok raw =>
      simp only [hdecode, Except.ok.injEq] at h
      exact ⟨raw, Utf8.decode_eq_ok_iff.mp hdecode, h⟩
  · rintro ⟨raw, rfl, rfl⟩
    rw [Utf8.decode_eq_ok_iff.mpr rfl]

theorem return_notMem_of_documentText {content : Bytes} {t : Text}
    (h : documentText content = .ok t) : '\r' ∉ t := by
  obtain ⟨raw, -, rfl⟩ := documentText_eq_ok_iff.mp h
  exact return_notMem_plainEnds raw

/-- Output is recorded by the edit of its block. -/
theorem record_inv {t name : Text} {out : Output} {new : Recorded}
    (h : record t name out = .ok new) :
    ∃ o b, Outline.parse t = .ok o ∧ o.findBlock? name = some b ∧
      new.edit = o.recordingEdit (lines t) b out ∧ new.edit.apply t = .ok new.text := by
  unfold record recordingEdit at h
  cases ho : Outline.parse t with
  | error e => simp [ho] at h
  | ok o =>
    cases hb : o.findBlock? name with
    | none => simp [ho, hb] at h
    | some b =>
      simp only [ho, hb] at h
      cases happly : (o.recordingEdit (lines t) b out).apply t with
      | error e => simp [happly] at h
      | ok u =>
        simp only [happly, Except.ok.injEq] at h
        subst h
        exact ⟨o, b, rfl, hb, rfl, happly⟩

theorem isWhole_recordingEdit (o : Outline) (ls : List Line) (b : Block) (out : Output) :
    IsWhole (o.recordingEdit ls b out).content := by
  unfold Outline.recordingEdit
  cases o.attachedOutput? ls b with
  | some r => exact out.isWhole_region
  | none => exact (IsWhole.append_newline []).append out.isWhole_region

/-- A text without carriage returns is read as it was written when there are none in the output
either. -/
theorem plainEnds_recorded {t name : Text} {out : Output} {new : Recorded} (ht : '\r' ∉ t)
    (hout : '\r' ∉ out.payload) (h : record t name out = .ok new) :
    plainEnds new.text = new.text := by
  obtain ⟨o, b, -, -, hedit, happly⟩ := record_inv h
  have hwhole : IsWhole new.edit.content := hedit ▸ isWhole_recordingEdit o _ b out
  have hcontent : plainEnds new.edit.content = new.edit.content := by
    rw [hedit, Outline.recordingEdit]
    cases o.attachedOutput? (lines t) b with
    | some r => exact Output.plainEnds_region_of_notMem hout
    | none =>
      rw [plainEnds_cons (by decide), Output.plainEnds_region_of_notMem hout]
  have hread := apply_plainEnds ht hwhole happly
  rw [hcontent] at hread
  exact Except.ok.inj (hread.symm.trans happly)

/-- Recording in a file is recording in its text. -/
theorem recordInFile_eq_ok_iff {content content' : Bytes} {name : Text} {out : Output} :
    recordInFile content name out = .ok content' ↔
      ∃ t new, documentText content = .ok t ∧ record t name out = .ok new ∧
        Utf8.encode new.text = content' := by
  unfold recordInFile
  cases documentText content with
  | error e => simp
  | ok t =>
    cases hrecord : record t name out with
    | error e => simp [hrecord]
    | ok new => simp [hrecord]

/-! ## The pieces of a file -/

/-- What stands before, in and after the lines of a text that an edit replaces, and what recording
output makes of it.  Lines are those of the text as it is read. -/
structure InPlace (raw name : Text) (out : Output) (new : Recorded) (front middle back : Text) :
    Prop where
  /-- The pieces are the text. -/
  pieces : raw = front ++ (middle ++ back)
  /-- The region replaces the output of the block; when it has none, a blank line and the region
  follow the block. -/
  place : ∃ o b, Outline.parse (plainEnds raw) = .ok o ∧ o.findBlock? name = some b ∧
    match o.attachedOutput? (lines (plainEnds raw)) b with
    | some r => new.edit = ⟨r.startLine, r.endLine + 1, out.region⟩
    | none => new.edit = ⟨b.endLine + 1, b.endLine + 1, '\n' :: out.region⟩
  /-- The first piece holds the lines before. -/
  front_lines : withEnds (plainEnds front) =
    (withEnds (plainEnds raw)).take (new.edit.startLine.toNat - 1)
  /-- The second piece holds the lines that are replaced. -/
  middle_lines : withEnds (plainEnds middle) =
    ((withEnds (plainEnds raw)).take (new.edit.endLine.toNat - 1)).drop
      (new.edit.startLine.toNat - 1)
  /-- The third piece holds the lines after them. -/
  back_lines : withEnds (plainEnds back) =
    (withEnds (plainEnds raw)).drop (new.edit.endLine.toNat - 1)
  /-- The first and the third piece are written as they were read. -/
  written : new.text = terminated (plainEnds front) ++ (new.edit.content ++ plainEnds back)

/-- The lines of a text in three pieces. -/
theorem exists_pieces (raw : Text) {j k : ℕ} (hjk : j ≤ k) :
    ∃ front middle back, raw = front ++ (middle ++ back) ∧
      withEnds (plainEnds front) = (withEnds (plainEnds raw)).take j ∧
      withEnds (plainEnds middle) = ((withEnds (plainEnds raw)).take k).drop j ∧
      withEnds (plainEnds back) = (withEnds (plainEnds raw)).drop k := by
  set ls := withEnds (plainEnds raw) with hls
  have htake : ls.take j ++ (ls.take k).drop j = ls.take k := by
    have h := List.take_append_drop j (ls.take k)
    rwa [List.take_take, Nat.min_eq_left hjk] at h
  have hsplit : plainEnds raw =
      (ls.take j).flatten ++ (((ls.take k).drop j).flatten ++ (ls.drop k).flatten) := by
    rw [← List.flatten_append, ← List.flatten_append, ← List.append_assoc, htake,
      List.take_append_drop, hls, flatten_withEnds]
  obtain ⟨front, rest, rfl, hfront, hrest⟩ := plainEnds_eq_append_inv hsplit
  obtain ⟨middle, back, rfl, hmiddle, hback⟩ := plainEnds_eq_append_inv hrest
  refine ⟨front, middle, back, rfl, ?_, ?_, ?_⟩
  · rw [hfront, withEnds_take]
  · have hdrop := withEnds_drop ((ls.take k).flatten) j
    rw [withEnds_take] at hdrop
    rw [hmiddle, hdrop]
  · rw [hback, withEnds_drop]

/-- **Recording in place.**  What is written are the pieces of the file before and after the lines
that are replaced, as they were read, and the region between them. -/
theorem record_inPlace {raw name : Text} {out : Output} {new : Recorded}
    (h : record (plainEnds raw) name out = .ok new) :
    ∃ front middle back, InPlace raw name out new front middle back := by
  obtain ⟨o, b, ho, hb, hedit, happly⟩ := record_inv h
  have hwhole : IsWhole new.edit.content := hedit ▸ isWhole_recordingEdit o _ b out
  unfold apply at happly
  dsimp only at happly
  split_ifs at happly with hfit
  have hle : new.edit.startLine.toNat - 1 ≤ new.edit.endLine.toNat - 1 := by omega
  obtain ⟨front, middle, back, hraw, hfront, hmiddle, hback⟩ := exists_pieces raw hle
  refine ⟨front, middle, back, hraw, ⟨o, b, ho, hb, ?_⟩, hfront, hmiddle, hback, ?_⟩
  · rw [hedit, Outline.recordingEdit]
    cases o.attachedOutput? (lines (plainEnds raw)) b with
    | some r => rfl
    | none => rfl
  · rw [← Except.ok.inj happly, splice_eq _ _ hwhole, ← hfront, ← hback, flatten_withEnds,
      flatten_withEnds]

/-! ## What is kept -/

/-- Pieces are written as they were exactly when they have no carriage returns. -/
theorem terminated_plainEnds_eq_iff {front content back : Text} :
    terminated (plainEnds front) ++ (content ++ plainEnds back) =
        terminated front ++ (content ++ back) ↔
      '\r' ∉ front ∧ '\r' ∉ back := by
  constructor
  · intro h
    have hcount := congrArg (List.count '\r') h
    have hnone : ∀ t : Text, (plainEnds t).count '\r' = 0 :=
      fun t => List.count_eq_zero.mpr (return_notMem_plainEnds t)
    simp only [List.count_append, count_return_terminated, hnone] at hcount
    constructor
    · exact List.count_eq_zero.mp (by omega)
    · exact List.count_eq_zero.mp (by omega)
  · rintro ⟨hfront, hback⟩
    rw [plainEnds_of_notMem hfront, plainEnds_of_notMem hback]

end Literate

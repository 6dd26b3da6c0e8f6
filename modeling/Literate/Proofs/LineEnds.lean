import Mathlib
import Literate.Deck
import Literate.Edit
import Literate.Macro.Expansion
import Literate.Proofs.Exclusion.Idempotence
import Literate.Proofs.Text.Join

/-!
# Both kinds of line end

A line may end in a newline alone or in a carriage return and a newline.  A document of one kind is
read like the same document of the other kind: it has the same lines.  What is written back is of the
kind that the document has, and an edit leaves the same lines.

* `Text.crlf`: the text with a carriage return before every newline.
* `Text.lines_crlf`: the same lines.
* `Exclusion.joinKept_crlf`: kept lines are written back with the line ends of the document.
* `Edit.apply_crlf`: an edit of the one text and of the other.
* `crlf_agrees`: everything that is made of a document.
-/

namespace Literate

open Text

namespace Text

/-- The text with a carriage return before every newline. -/
def crlf (t : Text) : Text := t.flatMap fun c => if c = '\n' then ['\r', '\n'] else [c]

variable {t : Text}

theorem crlf_newline (t : Text) : crlf ('\n' :: t) = '\r' :: '\n' :: crlf t := rfl

theorem crlf_cons {c : Char} (hc : c ≠ '\n') (t : Text) : crlf (c :: t) = c :: crlf t := by
  simp [crlf, hc]

theorem crlf_append (a b : Text) : crlf (a ++ b) = crlf a ++ crlf b := List.flatMap_append

theorem crlf_of_notMem (h : '\n' ∉ t) : crlf t = t := by
  induction t with
  | nil => rfl
  | cons c t ih =>
    rw [List.mem_cons, not_or] at h
    rw [crlf_cons (Ne.symm h.1), ih h.2]

theorem crlf_eq_nil_iff : crlf t = [] ↔ t = [] := by
  cases t with
  | nil => exact Iff.rfl
  | cons c t =>
    by_cases hc : c = '\n'
    · simp [hc, crlf_newline]
    · simp [crlf_cons hc]

theorem getLast?_crlf (t : Text) : (crlf t).getLast? = t.getLast? := by
  rcases List.eq_nil_or_concat' t with rfl | ⟨s, c, rfl⟩
  · rfl
  · rw [crlf_append, List.getLast?_concat]
    by_cases hc : c = '\n'
    · rw [hc, crlf_newline, List.getLast?_append_of_ne_nil _ (by simp)]
      rfl
    · rw [crlf_cons hc, List.getLast?_append_of_ne_nil _ (by simp)]
      rfl

/-- Each line has its carriage return. -/
theorem withEnds_crlf (t : Text) : withEnds (crlf t) = (withEnds t).map crlf := by
  induction t with
  | nil => rfl
  | cons c t ih =>
    by_cases hc : c = '\n'
    · rw [hc, crlf_newline, withEnds_newline, withEnds_cons (by decide) (withEnds_newline _), ih]
      rfl
    · rw [crlf_cons hc]
      cases hw : withEnds t with
      | nil =>
        obtain rfl := withEnds_eq_nil_iff.mp hw
        rw [withEnds_singleton, List.map_singleton, crlf_cons hc]
        exact withEnds_singleton c
      | cons l ls =>
        rw [withEnds_cons hc hw, withEnds_cons hc (by rw [ih, hw]; rfl), List.map_cons,
          crlf_cons hc]

/-- A line without carriage returns has the same content with either line end. -/
theorem content_crlf {l : Text} (hl : l ∈ withEnds t) (hreturn : '\r' ∉ l) :
    content (crlf l) = content l := by
  obtain ⟨body, hbody, rfl | rfl⟩ := exists_of_mem_withEnds hl
  · rw [crlf_of_notMem hbody]
  · have hlast : body.getLast? ≠ some '\r' := fun h =>
      hreturn (List.mem_append_left _ (List.mem_of_getLast? h))
    have hends : crlf (body ++ ['\n']) = body ++ ['\r'] ++ ['\n'] := by
      rw [crlf_append, crlf_of_notMem hbody, List.append_assoc]
      rfl
    rw [hends, content_append_newline, content_append_newline, dropLast?_append,
      dropLast?_of_getLast?_ne hlast]

/-- **The same lines** in a text of either kind. -/
theorem lines_crlf (h : '\r' ∉ t) : lines (crlf t) = lines t := by
  rw [lines, withEnds_crlf, List.map_map]
  refine List.map_congr_left fun l hl => content_crlf hl fun hc => h ?_
  rw [← flatten_withEnds t]
  exact List.mem_flatten.mpr ⟨l, hl, hc⟩

/-! ## Writing back -/

theorem join_crlf {ls : List Line} (h : ∀ l ∈ ls, '\n' ∉ l) :
    crlf (join ['\n'] ls) = join ['\r', '\n'] ls := by
  cases ls with
  | nil => rfl
  | cons l ls =>
    rw [List.forall_mem_cons] at h
    have hends : ∀ m ∈ ls, crlf (['\n'] ++ m) = ['\r', '\n'] ++ m := by
      intro m hm
      rw [crlf_append, crlf_of_notMem (h.2 m hm)]
      rfl
    rw [join_cons, join_cons, crlf_append, crlf_of_notMem h.1, crlf, List.flatMap_assoc]
    exact congrArg (l ++ ·) (List.flatMap_congr hends)

theorem occursIn_append (a part b : Text) : occursIn part (a ++ (part ++ b)) = true := by
  rw [occursIn]
  induction a with
  | nil =>
    rw [List.nil_append]
    cases hpart : part ++ b with
    | nil =>
      obtain ⟨rfl, rfl⟩ := List.append_eq_nil_iff.mp hpart
      rfl
    | cons c r => rw [search, ← hpart, afterPrefix?_append]; rfl
  | cons c a ih =>
    rw [List.cons_append, search]
    split
    · rfl
    · obtain ⟨found, hfound⟩ := Option.isSome_iff_exists.mp ih
      rw [hfound]
      rfl

/-- A text of the one kind that has a line end has it with a carriage return. -/
theorem occursIn_crlf (h : '\n' ∈ t) : occursIn ['\r', '\n'] (crlf t) = true := by
  obtain ⟨a, b, rfl⟩ := List.append_of_mem h
  rw [crlf_append, crlf_newline]
  exact occursIn_append (crlf a) ['\r', '\n'] (crlf b)

end Text

namespace Exclusion

/-- A document without line ends has at most one line, and so has what is kept of it. -/
theorem length_keptLines_le {t : Text} (h : '\n' ∉ t) (o : Outline) (target : Target) :
    (keptLines o target (lines t)).length ≤ 1 := by
  have hsub : (keptLines o target (lines t)).Sublist
      ((Entry.numbered 1 (lines t)).map fun e => ⟨e.number, clean o e⟩) := collect_sublist _ _ _
  have hlines : (lines t).length ≤ 1 := by
    by_cases hnil : t = []
    · simp [hnil, lines, withEnds]
    · simp [length_lines, withEnds_of_notMem h hnil]
  have hle := hsub.length_le
  rw [List.length_map, Entry.length_numbered] at hle
  exact hle.trans hlines

/-- **Kept lines are written back with the line ends of the document.** -/
theorem joinKept_crlf {t : Text} (hreturn : '\r' ∉ t) (o : Outline) (target : Target) :
    joinKept (crlf t) (keptLines o target (lines t)) =
      crlf (joinKept t (keptLines o target (lines t))) := by
  have hplain : occursIn ['\r', '\n'] t = false := occursIn_eq_false hreturn _
  have hkept : ∀ l ∈ (keptLines o target (lines t)).map Entry.text, '\n' ∉ l :=
    fun l hl => (notMem_of_mem_keptLines hreturn hl).1
  by_cases hnewline : '\n' ∈ t
  · have hempty : (join ['\r', '\n'] ((keptLines o target (lines t)).map Entry.text)).isEmpty =
        (join ['\n'] ((keptLines o target (lines t)).map Entry.text)).isEmpty := by
      rw [← join_crlf hkept, Bool.eq_iff_iff, List.isEmpty_iff, List.isEmpty_iff, crlf_eq_nil_iff]
    simp only [joinKept, occursIn_crlf hnewline, hplain, if_true, getLast?_crlf, hempty,
      if_neg Bool.false_ne_true]
    split_ifs
    · rw [crlf_append, join_crlf hkept]
      rfl
    · rw [join_crlf hkept]
  · -- one line at most, and nothing is put between lines or behind them
    have hlast : (t.getLast? == some '\n') = false :=
      beq_eq_false_iff_ne.mpr fun h => hnewline (List.mem_of_getLast? h)
    have hlength := length_keptLines_le hnewline o target
    rw [crlf_of_notMem hnewline]
    simp only [joinKept, hplain, hlast, Bool.and_false, if_neg Bool.false_ne_true]
    generalize keptLines o target (lines t) = kept at hkept hlength ⊢
    rcases kept with _ | ⟨e, _ | ⟨f, kept⟩⟩
    · rfl
    · rw [List.map_singleton, join_cons, List.flatMap_nil, List.append_nil]
      exact (crlf_of_notMem (hkept e.text (by simp))).symm
    · simp at hlength

end Exclusion

/-- **An edit of either text** fails with the same error, or gives texts of the same lines. -/
theorem Edit.apply_crlf {t : Text} (h : '\r' ∉ t) (e : Edit) :
    (e.apply (crlf t)).map lines = (e.apply t).map lines := by
  have hlength : (withEnds (crlf t)).length = (withEnds t).length := by
    rw [withEnds_crlf, List.length_map]
  rw [apply, apply, hlength]
  split_ifs
  · simp only [Except.map, lines_splice, lines_crlf h]
  · rfl

/-- **Line ends do not matter.**  A text without carriage returns and the same text with one before
every newline have the same outline or fail with the same error.  What is excluded from the one is
what is excluded from the other, with its line ends; the slides, the expanded blocks and the edits
that record output are the same, and every edit leaves the same lines or does not fit either. -/
theorem crlf_agrees {t : Text} (h : '\r' ∉ t) :
    Outline.parse (crlf t) = Outline.parse t ∧
    (∀ target, exclude (crlf t) target = (exclude t target).map crlf) ∧
    Deck.sources (crlf t) = Deck.sources t ∧
    (∀ name, expandBlock (crlf t) name = expandBlock t name) ∧
    (∀ name output, recordingEdit (crlf t) name output = recordingEdit t name output) ∧
    ∀ e : Edit, (e.apply (crlf t)).map lines = (e.apply t).map lines := by
  have hparse : Outline.parse (crlf t) = Outline.parse t := by
    rw [Outline.parse, Outline.parse, lines_crlf h]
  refine ⟨hparse, fun target => ?_, ?_, fun name => ?_, fun name output => ?_, Edit.apply_crlf h⟩
  · rw [exclude, exclude, keptLines, keptLines, hparse, lines_crlf h]
    cases Outline.parse t with
    | error e => rfl
    | ok o => exact congrArg Except.ok (Exclusion.joinKept_crlf h o target)
  · rw [Deck.sources, Deck.sources, hparse, lines_crlf h]
  · rw [expandBlock, expandBlock, hparse]
  · rw [recordingEdit, recordingEdit, hparse, lines_crlf h]

/-- A document with a marked line, an output that is replaced and no newline at its end. -/
theorem crlf_agrees_unterminated :
    let t := "# T\n\nold %\n```sh a\nx\n```\n```output\ny\n```\nend".toList
    '\r' ∉ t ∧ exclude t .doc = .ok "# T\n\n```sh a\nx\n```\n```output\ny\n```\nend".toList ∧
      exclude (crlf t) .doc =
        .ok "# T\r\n\r\n```sh a\r\nx\r\n```\r\n```output\r\ny\r\n```\r\nend".toList ∧
      expandBlock (crlf t) ['a'] = .ok ['x'] ∧
      recordingEdit (crlf t) ['a'] (.text ['z']) = .ok ⟨7, 10, "```output\nz\n```\n".toList⟩ ∧
      (Edit.apply (crlf t) ⟨10, 11, "z\r\nz".toList⟩).map lines =
        (Edit.apply t ⟨10, 11, "z\r\nz".toList⟩).map lines := by
  intro t
  have hreturn : '\r' ∉ t := by decide +kernel
  have hexclude : exclude t .doc = .ok "# T\n\n```sh a\nx\n```\n```output\ny\n```\nend".toList := by
    decide +kernel
  have hexpand : expandBlock t ['a'] = .ok ['x'] := by decide +kernel
  have hrecord : recordingEdit t ['a'] (.text ['z']) =
      .ok ⟨7, 10, "```output\nz\n```\n".toList⟩ := by decide +kernel
  obtain ⟨-, hexcludes, -, hexpands, hrecords, hedits⟩ := crlf_agrees hreturn
  refine ⟨hreturn, hexclude, ?_, (hexpands _).trans hexpand, (hrecords _ _).trans hrecord,
    hedits _⟩
  rw [hexcludes, hexclude]
  decide +kernel

end Literate

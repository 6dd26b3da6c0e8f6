import Mathlib
import Literate.CommandLine.Dispatch
import Literate.Proofs.Action
import Literate.Proofs.DocumentFile
import Literate.Proofs.Files.FileTree

/-!
# The run that is recorded

The command that runs a block and records its output exits with status zero only when each of its
steps succeeds: the file is read, the block is executed, the output is recorded in the text, and the
text is written under the path it was read from.  Then the file holds what was written.

Two things about the file depend on carriage returns.  It can be read again when no line of the
output, with carriage returns as line ends, closes the region; and it is edited in place when there
are no carriage returns outside the lines that are replaced.  Both conditions are exact.

* `CommandLine.RunRecorded`: what such a run has to do with the file before and after it.
* `CommandLine.exists_runRecorded`: every run that exits with status zero is one.
* `CommandLine.start_readsBack`: when the file can be read again.
* `CommandLine.start_inPlace`: when the file is edited in place.
-/

namespace Literate.CommandLine

open Text Literate.Action

variable {x : Workbench} {w w' : World}

/-- A run of a block of the file at `p` whose output was recorded: `content` and `t` are the bytes
and the text of the file before, `result` is what the run left, and `new` is what was written. -/
structure RunRecorded (x : Workbench) (p : FilePath) (name : Text) (timeout : Option Double)
    (w w' : World) (content : Bytes) (t : Text) (result : RunResult) (new : Recorded) : Prop where
  /-- The file was there. -/
  opened : w.tree.read x.around.cwd p = .ok content
  /-- It is UTF-8. -/
  text : documentText content = .ok t
  /-- The block was executed. -/
  executed : ∃ settings w₁, Settings.load x.around w.tree = .ok settings ∧
    (x.execute settings ⟨p, t, (p.resolve x.around.cwd).dropLast⟩ name timeout).perform w =
      (.ok result, w₁)
  /-- Its output could be recorded. -/
  recorded : record t name (.result result) = .ok new
  /-- The file holds the text with the output. -/
  written : w'.tree.read x.around.cwd p = .ok (Utf8.encode new.text)

/-- An answer leaves the files alone. -/
theorem exists_answer (json : Bool) (data : Json) (t : Text) (w : World) :
    ∃ w', (answer json data t).perform w = (.ok (), w') ∧ w'.tree = w.tree := by
  unfold answer
  split_ifs
  · exact ⟨_, rfl, rfl⟩
  · exact ⟨_, rfl, rfl⟩
  · exact ⟨_, rfl, rfl⟩

theorem answer_inv {json : Bool} {data : Json} {t : Text} {u : Unit}
    (h : (answer json data t).perform w = (.ok u, w')) : w'.tree = w.tree := by
  obtain ⟨w₁, hanswer, htree⟩ := exists_answer json data t w
  rw [hanswer] at h
  cases h
  exact htree

/-- Recording writes the text with the output. -/
theorem recorded_inv {json : Bool} {d : OpenDocument} {name : Text} {result : RunResult}
    {status : ℕ} (h : (x.recorded json d name result).perform w = (.ok status, w')) :
    ∃ new, record d.text name (.result result) = .ok new ∧
      w'.tree.read x.around.cwd d.path = .ok (Utf8.encode new.text) := by
  unfold Workbench.recorded at h
  obtain ⟨new, w₁, hnew, hrest⟩ := perform_bind_inv h
  obtain ⟨hrecord, rfl⟩ := perform_ofExcept_inv hnew
  obtain ⟨_, w₂, hupdate, hend⟩ := perform_bind_inv hrest
  obtain ⟨tree, hwrite, rfl⟩ := perform_update_inv hupdate
  obtain ⟨_, w₃, hanswer, hpure⟩ := perform_bind_inv hend
  have htree := answer_inv hanswer
  cases hpure
  refine ⟨new, hrecord, ?_⟩
  rw [htree]
  exact FileTree.read_of_write hwrite

/-- Output that can be recorded and written is recorded. -/
theorem exists_recorded {json : Bool} {d : OpenDocument} {name : Text} {result : RunResult}
    {new : Recorded} {tree : FileTree} (hnew : record d.text name (.result result) = .ok new)
    (hwrite : w.tree.write x.around.cwd d.path (Utf8.encode new.text) = .ok tree) :
    ∃ w', (x.recorded json d name result).perform w = (.ok 0, w') ∧ w'.tree = tree := by
  have hof : (ofExcept id (record d.text name (.result result))).perform w = (.ok new, w) := by
    rw [hnew]
    rfl
  have hupdate := perform_update (f := Failure.file) (g := fun t =>
    t.write x.around.cwd d.path (Utf8.encode new.text)) hwrite
  unfold Workbench.recorded
  simp only [perform_bind, hof, hupdate]
  obtain ⟨w', hanswer, htree⟩ := exists_answer json
    (.obj [("result", result.toJson), ("edit", new.edit.toJson)])
    ("Block '".toList ++ name ++ "' exited with status ".toList ++ signedNumeral result.status ++
      "; output recorded in ".toList ++ d.path.toText) { w with tree := tree }
  rw [hanswer]
  exact ⟨w', rfl, htree⟩

/-- A document that is opened is a file that can be read, and opening it changes nothing. -/
theorem open?_inv {p : FilePath} {d : OpenDocument}
    (h : (x.open? p).perform w = (.ok (some d), w')) :
    w' = w ∧ ∃ content t, w.tree.read x.around.cwd p = .ok content ∧
      documentText content = .ok t ∧ d = ⟨p, t, (p.resolve x.around.cwd).dropLast⟩ := by
  unfold Workbench.open? at h
  by_cases hnull : p.hasNull = true
  · simp only [hnull, if_true] at h
    obtain ⟨_, w₁, hthrow, -⟩ := perform_bind_inv h
    cases hthrow
  · simp only [hnull, Bool.false_eq_true, if_false] at h
    obtain ⟨tree, w₁, htree, hread⟩ := perform_bind_inv h
    cases htree
    cases hcontent : w.tree.read x.around.cwd p with
    | error e =>
      simp only [hcontent] at hread
      obtain ⟨_, w₂, -, hnone⟩ := perform_bind_inv hread
      cases hnone
    | ok content =>
      simp only [hcontent] at hread
      obtain ⟨t, w₂, htext, hsome⟩ := perform_bind_inv hread
      obtain ⟨hdocument, rfl⟩ := perform_ofExcept_inv htext
      cases hsome
      exact ⟨rfl, content, t, rfl, hdocument, rfl⟩

/-- A file that can be read is opened, and opening it changes nothing. -/
theorem open?_eq {p : FilePath} {content : Bytes} {t : Text} (hnull : p.hasNull = false)
    (hread : w.tree.read x.around.cwd p = .ok content) (htext : documentText content = .ok t) :
    (x.open? p).perform w = (.ok (some ⟨p, t, (p.resolve x.around.cwd).dropLast⟩), w) := by
  have htree : Action.tree.perform w = (.ok w.tree, w) := rfl
  unfold Workbench.open?
  simp only [hnull, Bool.false_eq_true, if_false, perform_bind, htree, hread, htext]
  rfl

/-- A failure that is reported gives another exit status. -/
theorem report_inv {json : Bool} {kind : String} {e : Failure} {status : ℕ}
    (h : (Invocation.report json kind e).perform w = (.ok status, w')) : status = 1 := by
  unfold Invocation.report at h
  split_ifs at h
  · cases h
    rfl
  · cases h
    rfl

/-- An exit with status zero is no report of a failure. -/
theorem carryOut_inv {i : Invocation} (h : (i.carryOut x).perform w = (.ok 0, w')) :
    (x.carryOut i.json i.command).perform w = (.ok 0, w') := by
  unfold Invocation.carryOut at h
  obtain hcarry | ⟨e, w₁, -, hreport⟩ := perform_tryCatch_inv h
  · exact hcarry
  · cases hkind : e.kind? with
    | none =>
      simp only [hkind] at hreport
      cases hreport
    | some kind =>
      simp only [hkind] at hreport
      split_ifs at hreport
      · cases hreport
      · have hone := report_inv hreport
        omega

/-- Work on a document that exits with status zero was done on a document that was opened. -/
theorem withDocument_inv {p : FilePath} {work : OpenDocument → Action ℕ}
    (h : (x.withDocument p work).perform w = (.ok 0, w')) :
    ∃ d, (x.open? p).perform w = (.ok (some d), w) ∧ (work d).perform w = (.ok 0, w') := by
  unfold Workbench.withDocument at h
  obtain ⟨d?, w₁, hopen, hwork⟩ := perform_bind_inv h
  cases d? with
  | none => cases hwork
  | some d =>
    obtain ⟨rfl, -⟩ := open?_inv hopen
    exact ⟨d, hopen, hwork⟩

/-- A run that exits with status zero has read the settings and the document, executed the block,
and recorded its output. -/
theorem start_run_inv {arguments : List Text} {i : Invocation} {p : FilePath} {name : Text}
    {timeout : Option Double} (hi : Invocation.ofArguments arguments = .ok i)
    (hrun : i.command = .run p name timeout) (hexit : (start x arguments w).1 = .exited 0) :
    ∃ settings d result w₁, Settings.load x.around w.tree = .ok settings ∧
      (x.open? p).perform w = (.ok (some d), w) ∧
      (x.execute settings d name timeout).perform w = (.ok result, w₁) ∧
      (x.recorded i.json d name result).perform w₁ = (.ok 0, (start x arguments w).2) := by
  unfold start at hexit ⊢
  simp only [hi] at hexit ⊢
  cases hperform : (i.carryOut x).perform w with
  | mk res w' =>
    rw [hperform] at hexit
    cases res with
    | error e => cases hexit
    | ok status =>
      obtain rfl : status = 0 := by simpa using hexit
      have hcarry := carryOut_inv hperform
      rw [hrun] at hcarry
      unfold Workbench.carryOut at hcarry
      obtain ⟨tree, w₁, htree, hload⟩ := perform_bind_inv hcarry
      cases htree
      obtain ⟨settings, w₂, hsettings, hdocument⟩ := perform_bind_inv hload
      obtain ⟨hsettings, rfl⟩ := perform_ofExcept_inv hsettings
      obtain ⟨d, hopen, hwork⟩ := withDocument_inv hdocument
      obtain ⟨result, w₃, hexecute, hrecord⟩ := perform_bind_inv hwork
      exact ⟨settings, d, result, w₃, hsettings, hopen, hexecute, hrecord⟩

/-- **A recorded run.**  When the command exits with status zero, the block was executed and its
output is in the file. -/
theorem exists_runRecorded {arguments : List Text} {i : Invocation} {p : FilePath} {name : Text}
    {timeout : Option Double} (hi : Invocation.ofArguments arguments = .ok i)
    (hrun : i.command = .run p name timeout) (hexit : (start x arguments w).1 = .exited 0) :
    ∃ content t result new,
      RunRecorded x p name timeout w (start x arguments w).2 content t result new := by
  obtain ⟨settings, d, result, w₁, hsettings, hopen, hexecute, hrecord⟩ :=
    start_run_inv hi hrun hexit
  obtain ⟨-, content, t, hread, htext, rfl⟩ := open?_inv hopen
  obtain ⟨new, hnew, hwritten⟩ := recorded_inv hrecord
  exact ⟨content, t, result, new, hread, htext, ⟨settings, w₁, hsettings, hexecute⟩, hnew,
    hwritten⟩

/-! ## Reading the file again -/

/-- **The file of a recorded run is read back**, with the blocks of before and with one region below
the block, exactly when no line of the output closes the region when it is read again; so it is when
the output has no carriage returns. -/
theorem start_readsBack {arguments : List Text} {i : Invocation} {p : FilePath} {name : Text}
    {timeout : Option Double} (hi : Invocation.ofArguments arguments = .ok i)
    (hrun : i.command = .run p name timeout) (hexit : (start x arguments w).1 = .exited 0) :
    ∃ content t result new o b,
      RunRecorded x p name timeout w (start x arguments w).2 content t result new ∧
      Outline.parse t = .ok o ∧ o.findBlock? name = some b ∧
      documentText (Utf8.encode new.text) = .ok (plainEnds new.text) ∧
      ((∃ o' r, Outline.parse (plainEnds new.text) = .ok o' ∧
          ReadsBack t o b (.result result) new.edit (plainEnds new.text) o' r) ↔
        (Output.result result).StaysOpen) ∧
      ('\r' ∉ (Output.result result).payload → (Output.result result).StaysOpen) := by
  obtain ⟨content, t, result, new, hrecorded⟩ := exists_runRecorded hi hrun hexit
  obtain ⟨o, b, ho, hb, hedit, happly⟩ := record_inv hrecorded.recorded
  have hname : o.findBlock? b.name = some b := by rw [Outline.name_of_findBlock? hb, hb]
  have hreturn : '\r' ∉ t := return_notMem_of_documentText hrecorded.text
  have htext : documentText (Utf8.encode new.text) = .ok (plainEnds new.text) :=
    documentText_eq_ok_iff.mpr ⟨new.text, rfl, rfl⟩
  refine ⟨content, t, result, new, o, b, hrecorded, ho, hb, htext, ?_,
    Output.staysOpen_of_notMem⟩
  rw [hedit] at happly ⊢
  exact recordingEdit_readsBack_iff hreturn ho hname (.result result) happly

/-- A workbench with one language, where every program writes the same. -/
def echoing (stdout : Text) : Workbench where
  machine := ⟨fun _ => none, fun _ _ tree => (tree, .finished 0 (Utf8.encode stdout) [])⟩
  browser := .printsNothing
  sheets := ⟨fun _ => .ok [], fun _ => .ok []⟩
  languages := .ofList [⟨"sh".toList, ["sh".toList], [], none⟩]
  around := ⟨["w".toList], [("LITDOC_TEMP_DIR".toList, "tmp".toList)], [([], "/home".toList)]⟩

/-- The world of a file `d` in the working directory of `echoing`. -/
def worldOf (t : Text) : World :=
  .ofTree ⟨[(["w".toList], .directory), (["w".toList, "d".toList], .file (Utf8.encode t))]⟩

/-- The arguments that run the block `a` of the file `d`. -/
def runArguments : List Text := ["run".toList, "d".toList, "a".toList]

theorem ofArguments_runArguments : Invocation.ofArguments runArguments =
    .ok ⟨false, false, .run (.ofText "d".toList) ['a'] none⟩ := by decide +kernel

/-- The status the program exits with, if it does. -/
def Outcome.status? : Outcome → Option ℕ
  | exited n => some n
  | _ => none

theorem Outcome.eq_exited {e : Outcome} {n : ℕ} (h : e.status? = some n) : e = .exited n := by
  cases e with
  | refused r => cases h
  | failed e => cases h
  | exited m =>
    cases h
    rfl

/-- Output that was written over itself, with a carriage return before a short run of backticks. -/
theorem start_readsBack_overwritten :
    let p := FilePath.ofText "d".toList
    let result : RunResult := ⟨"1%\r`` 2%\n".toList, [], 0⟩
    let x := echoing result.stdout
    let w := worldOf "```sh a\n```\n".toList
    (start x runArguments w).1 = .exited 0 ∧
      ∃ content t new o b o' r,
        RunRecorded x p ['a'] none w (start x runArguments w).2 content t result new ∧
        Outline.parse (plainEnds new.text) = .ok o' ∧
        ReadsBack t o b (.result result) new.edit (plainEnds new.text) o' r := by
  intro p result x w
  have hexit : (start x runArguments w).1 = .exited 0 := Outcome.eq_exited (by decide +kernel)
  obtain ⟨content, t, left, new, o, b, hrecorded, -, -, -, hiff, -⟩ :=
    start_readsBack ofArguments_runArguments rfl hexit
  -- the settings, the file and the result are what they are computed to be
  have hopened : w.tree.read x.around.cwd p = .ok (Utf8.encode "```sh a\n```\n".toList) := by
    decide +kernel
  obtain rfl : content = Utf8.encode "```sh a\n```\n".toList :=
    Except.ok.inj (hrecorded.opened.symm.trans hopened)
  have htext : documentText (Utf8.encode "```sh a\n```\n".toList) =
      .ok "```sh a\n```\n".toList := by decide +kernel
  obtain rfl : t = "```sh a\n```\n".toList := Except.ok.inj (hrecorded.text.symm.trans htext)
  have hperformed : ((Settings.load x.around w.tree).toOption.bind fun s =>
      ((x.execute s ⟨p, "```sh a\n```\n".toList, (p.resolve x.around.cwd).dropLast⟩ ['a']
        none).perform w).1.toOption) = some result := by decide +kernel
  obtain ⟨settings, w₁, hsettings, hexecute⟩ := hrecorded.executed
  rw [hsettings, Except.toOption, Option.bind_some, hexecute] at hperformed
  obtain rfl : left = result := Option.some.inj hperformed
  have hopen : (Output.result ⟨"1%\r`` 2%\n".toList, [], 0⟩).StaysOpen := by decide +kernel
  obtain ⟨o', r, hparse, hback⟩ := hiff.mpr hopen
  exact ⟨hexit, _, _, new, o, b, o', r, hrecorded, hparse, hback⟩

/-- A line end that was a carriage return comes before three backticks: they close the region. -/
theorem start_readsBack_closed :
    ¬ ∀ (x : Workbench) (arguments : List Text) (w : World) (i : Invocation) (p : FilePath)
      (name : Text) (timeout : Option Double) (content' : Bytes),
      Invocation.ofArguments arguments = .ok i → i.command = .run p name timeout →
      (start x arguments w).1 = .exited 0 →
      (start x arguments w).2.tree.read x.around.cwd p = .ok content' →
      ∃ t' o', documentText content' = .ok t' ∧ Outline.parse t' = .ok o' := by
  intro h
  let x := echoing "a\r```\n".toList
  let w := worldOf "```sh a\n```\n".toList
  have hexit : (start x runArguments w).1 = .exited 0 := Outcome.eq_exited (by decide +kernel)
  let written := ("```sh a\n```\n\n```output\nOutput:\na\r```\n\nStderr:\n\n\nExit code: 0\n" ++
    "```\n").toList
  have hread : (start x runArguments w).2.tree.read x.around.cwd (.ofText "d".toList) =
      .ok (Utf8.encode written) := by decide +kernel
  obtain ⟨t', o', htext, hparse⟩ := h x runArguments w _ _ _ _ _
    ofArguments_runArguments rfl hexit hread
  have hplain : documentText (Utf8.encode written) = .ok (plainEnds written) :=
    documentText_eq_ok_iff.mpr ⟨written, rfl, rfl⟩
  rw [hplain, Except.ok.injEq] at htext
  -- the fence that was to close the region opens a block
  have herror : Outline.parse (plainEnds written) = .error (.unclosed 13) := by decide +kernel
  rw [← htext, herror] at hparse
  cases hparse

/-! ## Editing the file in place -/

/-- **The file of a recorded run is edited in place**, with a newline at the end of the lines before
the region if they have none, exactly when there are no carriage returns outside the lines that are
replaced.  Else every line end of any kind is written as a newline. -/
theorem start_inPlace {arguments : List Text} {i : Invocation} {p : FilePath} {name : Text}
    {timeout : Option Double} (hi : Invocation.ofArguments arguments = .ok i)
    (hrun : i.command = .run p name timeout) (hexit : (start x arguments w).1 = .exited 0) :
    ∃ content t result new raw front middle back,
      RunRecorded x p name timeout w (start x arguments w).2 content t result new ∧
      content = Utf8.encode raw ∧ InPlace raw name (.result result) new front middle back ∧
      ((start x arguments w).2.tree.read x.around.cwd p =
          .ok (Utf8.encode (Edit.terminated front ++ (new.edit.content ++ back))) ↔
        '\r' ∉ front ∧ '\r' ∉ back) := by
  obtain ⟨content, t, result, new, hrecorded⟩ := exists_runRecorded hi hrun hexit
  obtain ⟨raw, hraw, rfl⟩ := documentText_eq_ok_iff.mp hrecorded.text
  obtain ⟨front, middle, back, hplace⟩ := record_inPlace hrecorded.recorded
  refine ⟨content, _, result, new, raw, front, middle, back, hrecorded, hraw, hplace, ?_⟩
  rw [hrecorded.written, Except.ok.injEq, Utf8.encode_injective.eq_iff, hplace.written,
    terminated_plainEnds_eq_iff]

/-- Output is put behind a block that ends the document without a newline. -/
theorem start_inPlace_unterminated :
    let p := FilePath.ofText "d".toList
    let x := echoing "hi\n".toList
    let w := worldOf "# T\n```sh a\n```".toList
    (start x runArguments w).1 = .exited 0 ∧
      ∃ content t result new raw front middle back,
        RunRecorded x p ['a'] none w (start x runArguments w).2 content t result new ∧
        content = Utf8.encode raw ∧ InPlace raw ['a'] (.result result) new front middle back ∧
        (start x runArguments w).2.tree.read x.around.cwd p =
          .ok (Utf8.encode (Edit.terminated front ++ (new.edit.content ++ back))) := by
  intro p x w
  have hexit : (start x runArguments w).1 = .exited 0 := Outcome.eq_exited (by decide +kernel)
  obtain ⟨content, t, result, new, raw, front, middle, back, hrecorded, hraw, hplace, hiff⟩ :=
    start_inPlace ofArguments_runArguments rfl hexit
  have hopened : w.tree.read x.around.cwd p = .ok (Utf8.encode "# T\n```sh a\n```".toList) := by
    decide +kernel
  have hcontent : raw = "# T\n```sh a\n```".toList := by
    apply Utf8.encode_injective
    rw [← hraw]
    exact Except.ok.inj (hrecorded.opened.symm.trans hopened)
  have hreturn : '\r' ∉ front ++ (middle ++ back) := by
    rw [← hplace.pieces, hcontent]
    decide
  simp only [List.mem_append, not_or] at hreturn
  exact ⟨hexit, content, t, result, new, raw, front, middle, back, hrecorded, hraw, hplace,
    hiff.mpr ⟨hreturn.1, hreturn.2.2⟩⟩

/-- Where lines end in carriage return and newline, recording output does not only insert. -/
theorem start_inPlace_return :
    ¬ ∀ (x : Workbench) (arguments : List Text) (w : World) (i : Invocation) (p : FilePath)
      (name : Text) (timeout : Option Double) (content content' : Bytes) (t : Text) (o : Outline)
      (b : Block),
      Invocation.ofArguments arguments = .ok i → i.command = .run p name timeout →
      (start x arguments w).1 = .exited 0 → w.tree.read x.around.cwd p = .ok content →
      documentText content = .ok t → Outline.parse t = .ok o → o.findBlock? name = some b →
      o.attachedOutput? (lines t) b = none →
      (start x arguments w).2.tree.read x.around.cwd p = .ok content' →
      ∃ front new back, content = front ++ back ∧ content' = front ++ new ++ back := by
  intro h
  let p := FilePath.ofText "d".toList
  let x := echoing "hi\n".toList
  let w := worldOf "```sh a\r\n```\r\n".toList
  let b : Block := ⟨1, 2, "```".toList, ⟨"sh".toList, some ['a'], none, [], [], false, false⟩, []⟩
  let o : Outline := ⟨2, [.block b], [⟨1, [], .implicit⟩]⟩
  let written := ("```sh a\n```\n\n```output\nOutput:\nhi\n\nStderr:\n\n\nExit code: 0\n" ++
    "```\n").toList
  have hexit : (start x runArguments w).1 = .exited 0 := Outcome.eq_exited (by decide +kernel)
  have hopened : w.tree.read x.around.cwd p = .ok (Utf8.encode "```sh a\r\n```\r\n".toList) := by
    decide +kernel
  have htext : documentText (Utf8.encode "```sh a\r\n```\r\n".toList) =
      .ok "```sh a\n```\n".toList := by decide +kernel
  have hread : (start x runArguments w).2.tree.read x.around.cwd p = .ok (Utf8.encode written) := by
    decide +kernel
  obtain ⟨front, new, back, hcontent, hwritten⟩ := h x runArguments w _ p ['a'] none _ _ _ o b
    ofArguments_runArguments rfl hexit hopened htext (by decide +kernel) (by decide +kernel)
    (by decide +kernel) hread
  -- the carriage returns of the file are gone
  have hbefore := congrArg (List.count 13) hcontent
  have hafter := congrArg (List.count 13) hwritten
  have htwo : (Utf8.encode "```sh a\r\n```\r\n".toList).count 13 = 2 := by decide +kernel
  have hnone : (Utf8.encode written).count 13 = 0 := by decide +kernel
  rw [htwo, List.count_append] at hbefore
  rw [hnone, List.count_append, List.count_append] at hafter
  omega

end Literate.CommandLine

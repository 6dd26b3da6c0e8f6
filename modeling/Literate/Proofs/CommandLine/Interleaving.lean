import Mathlib
import Literate.Proofs.CommandLine.Recording
import Literate.Proofs.Recording.Sequence

/-!
# Two runs of one document

A command that runs a block reads the document, executes the block and writes the document, and
nothing keeps another command from working on the file in between: there is no lock, and the file is
not looked at again before it is written.  So the order of the steps decides what is left.  When the
command that writes first does so before the other one reads, the file holds both outputs; when both
have read before, the output of the first is lost.

* `Move`: one step of one of two commands; `Runs` are any number of them in any order.
* `exists_runs_of_start`: a command that nothing comes between takes three steps.
* `Stage`: what the file holds at each point of every run, and what the commands have read.
* `runs_file`: what it holds in the end.
* `runs_file_overlapping`: an output that is lost.
-/

namespace Literate.CommandLine

open Text Literate.Action

/-! ## The steps of two commands -/

/-- A command that runs a block of a document and records its output. -/
structure RunCommand where
  bench : Workbench
  json : Bool
  document : FilePath
  block : Text

/-- What the document of the command holds. -/
def RunCommand.file? (c : RunCommand) (w : World) : Option Bytes :=
  (w.tree.read c.bench.around.cwd c.document).toOption

/-- One of two commands. -/
inductive Side
  | left
  | right
  deriving DecidableEq

/-- The other command. -/
def Side.other : Side → Side
  | left => right
  | right => left

/-- What a command does in one go. -/
inductive Act
  | read
  | execute
  | write
  deriving DecidableEq

/-- An act of one of the commands. -/
abbrev Event := Side × Act

/-- How far a command is. -/
inductive Progress
  | started
  | opened (d : OpenDocument)
  | executed (d : OpenDocument) (r : RunResult)
  | exited (r : RunResult) (status : ℕ)

/-- Two commands at work in one world. -/
structure Pair where
  world : World
  progress : Side → Progress

/-- The command `i` has come so far, and the world is `w`. -/
def Pair.advance (s : Pair) (i : Side) (w : World) (p : Progress) : Pair :=
  ⟨w, Function.update s.progress i p⟩

/-- One step of one of two commands.  Executing a block may give any result and may change anything
but the document. -/
inductive Move (c : Side → RunCommand) (s : Pair) : Event → Pair → Prop
  | read {i : Side} {d : OpenDocument} {w : World} (hi : s.progress i = .started)
    (hread : ((c i).bench.open? (c i).document).perform s.world = (.ok (some d), w)) :
    Move c s (i, .read) (s.advance i w (.opened d))
  | execute {i : Side} {d : OpenDocument} {r : RunResult} {w : World}
    (hi : s.progress i = .opened d) (hkept : (c i).file? w = (c i).file? s.world) :
    Move c s (i, .execute) (s.advance i w (.executed d r))
  | write {i : Side} {d : OpenDocument} {r : RunResult} {status : ℕ} {w : World}
    (hi : s.progress i = .executed d r)
    (hwrite : ((c i).bench.recorded (c i).json d (c i).block r).perform s.world =
      (.ok status, w)) :
    Move c s (i, .write) (s.advance i w (.exited r status))

/-- Steps of two commands, one after the other. -/
inductive Runs (c : Side → RunCommand) (s : Pair) : List Event → Pair → Prop
  | nil : Runs c s [] s
  | move {events : List Event} {s₁ s₂ : Pair} {e : Event} (hruns : Runs c s events s₁)
    (hmove : Move c s₁ e s₂) : Runs c s (events ++ [e]) s₂

/-- One event comes before another one. -/
def Precedes (events : List Event) (e e' : Event) : Prop := [e, e'].Sublist events

instance (events : List Event) (e e' : Event) : Decidable (Precedes events e e') :=
  inferInstanceAs (Decidable (List.Sublist _ _))

variable {c : Side → RunCommand} {s s' : Pair} {events : List Event} {i : Side}

theorem Side.other_ne (i : Side) : i.other ≠ i := by cases i <;> decide

theorem Side.eq_or_other (i j : Side) : j = i ∨ j = i.other := by
  cases i <;> cases j <;> decide

@[simp] theorem Pair.advance_self (s : Pair) (i : Side) (w : World) (p : Progress) :
    (s.advance i w p).progress i = p := Function.update_self ..

theorem Pair.advance_of_ne {j : Side} (h : j ≠ i) (s : Pair) (w : World) (p : Progress) :
    (s.advance i w p).progress j = s.progress j := Function.update_of_ne h ..

@[simp] theorem Pair.world_advance (s : Pair) (i : Side) (w : World) (p : Progress) :
    (s.advance i w p).world = w := rfl

theorem precedes_concat {e₁ e₂ e : Event} :
    Precedes (events ++ [e]) e₁ e₂ ↔ Precedes events e₁ e₂ ∨ e₁ ∈ events ∧ e = e₂ := by
  unfold Precedes
  rw [← List.reverse_sublist]
  simp only [List.reverse_append, List.reverse_cons, List.reverse_nil, List.nil_append,
    List.singleton_append]
  rw [List.cons_sublist_cons', List.singleton_sublist, List.mem_reverse, and_comm (a := e₂ = e),
    eq_comm (a := e₂)]
  refine or_congr_left ?_
  rw [← List.reverse_sublist]
  simp

theorem Precedes.mem_left {e₁ e₂ : Event} (h : Precedes events e₁ e₂) : e₁ ∈ events :=
  h.subset (by simp)

@[simp] theorem Pair.advance_advance (s : Pair) (i : Side) (w w' : World) (p p' : Progress) :
    (s.advance i w p).advance i w' p' = s.advance i w' p' := by
  simp [Pair.advance]

theorem Runs.trans {events' : List Event} {s'' : Pair} (h : Runs c s events s')
    (h' : Runs c s' events' s'') : Runs c s (events ++ events') s'' := by
  induction h' with
  | nil => rwa [List.append_nil]
  | move _ hmove ih =>
    rw [← List.append_assoc]
    exact .move ih hmove

/-- The steps of one command with nothing between them. -/
theorem Runs.alone {d : OpenDocument} {r : RunResult} {status : ℕ} {w₁ w₂ w₃ : World}
    (hi : s.progress i = .started)
    (hread : ((c i).bench.open? (c i).document).perform s.world = (.ok (some d), w₁))
    (hkept : (c i).file? w₂ = (c i).file? w₁)
    (hwrite : ((c i).bench.recorded (c i).json d (c i).block r).perform w₂ = (.ok status, w₃)) :
    Runs c s [(i, .read), (i, .execute), (i, .write)] (s.advance i w₃ (.exited r status)) := by
  have hruns := ((Runs.nil (c := c) (s := s)).move (.read hi hread)).move
    (.execute (r := r) (Pair.advance_self ..) hkept)
  have hall := hruns.move (.write (Pair.advance_self ..) hwrite)
  rwa [Pair.advance_advance, Pair.advance_advance] at hall

/-- **A command that nothing comes between** takes its three steps, when executing the block leaves
the document alone. -/
theorem exists_runs_of_start {x : Workbench} {arguments : List Text} {inv : Invocation}
    {p : FilePath} {name : Text} {timeout : Option Double}
    (hinv : Invocation.ofArguments arguments = .ok inv) (hrun : inv.command = .run p name timeout)
    (hexit : (start x arguments s.world).1 = .exited 0) (hc : c i = ⟨x, inv.json, p, name⟩)
    (hi : s.progress i = .started)
    (hkept : ∀ settings d r w, (x.execute settings d name timeout).perform s.world = (.ok r, w) →
      (c i).file? w = (c i).file? s.world) :
    ∃ r, Runs c s [(i, .read), (i, .execute), (i, .write)]
      (s.advance i (start x arguments s.world).2 (.exited r 0)) := by
  obtain ⟨settings, d, r, w, -, hopen, hexecute, hrecord⟩ := start_run_inv hinv hrun hexit
  have hopened : ((c i).bench.open? (c i).document).perform s.world = (.ok (some d), s.world) := by
    rwa [hc]
  have hrecorded : ((c i).bench.recorded (c i).json d (c i).block r).perform w =
      (.ok 0, (start x arguments s.world).2) := by rwa [hc]
  exact ⟨r, Runs.alone hi hopened (hkept settings d r w hexecute) hrecorded⟩

/-! ## What the file holds -/

/-- The command has read a file that held `content`, and has not written it yet. -/
def Progress.HasRead (document : FilePath) (content : Bytes) : Progress → Prop
  | opened d => d.path = document ∧ documentText content = .ok d.text
  | executed d _ => d.path = document ∧ documentText content = .ok d.text
  | _ => False

/-- The two commands work on one file. -/
def SameFile (c : Side → RunCommand) (w : World) : Prop := (c .left).file? w = (c .right).file? w

theorem SameFile.eq {w : World} (h : SameFile c w) (i j : Side) :
    (c i).file? w = (c j).file? w := by
  cases i with
  | left =>
    cases j with
    | left => rfl
    | right => exact h
  | right =>
    cases j with
    | left => exact h.symm
    | right => rfl

/-- What the file holds when neither command has written it, when one has, and when both have. -/
inductive Stage (c : Side → RunCommand) (content : Bytes) (events : List Event) (s : Pair) : Prop
  | unwritten (hfile : ∀ i, (c i).file? s.world = some content)
    (hwrite : ∀ i, (i, Act.write) ∉ events)
    (hprogress : ∀ i, s.progress i = .started ∧ (i, Act.read) ∉ events ∨
      (s.progress i).HasRead (c i).document content)
  | written {i : Side} {r : RunResult} {status : ℕ} {content' : Bytes}
    (hfile : ∀ j, (c j).file? s.world = some content')
    (hi : s.progress i = .exited r status)
    (hrecord : recordInFile content (c i).block (.result r) = .ok content')
    (hwrite : (i, Act.write) ∈ events)
    (hother : s.progress i.other = .started ∧ (i.other, Act.read) ∉ events ∨
      (s.progress i.other).HasRead (c i.other).document content' ∧
        Precedes events (i, .write) (i.other, .read) ∨
      (s.progress i.other).HasRead (c i.other).document content ∧
        ¬ Precedes events (i, .write) (i.other, .read))
  | both {i : Side} {r r' : RunResult} {status status' : ℕ} {content' content'' : Bytes}
    (hfile : ∀ j, (c j).file? s.world = some content'')
    (hi : s.progress i = .exited r status) (hother : s.progress i.other = .exited r' status')
    (hrecord : recordInFile content (c i).block (.result r) = .ok content')
    (hwrites : Precedes events (i, .write) (i.other, .write))
    (hread : recordInFile content' (c i.other).block (.result r') = .ok content'' ∧
        Precedes events (i, .write) (i.other, .read) ∨
      recordInFile content (c i.other).block (.result r') = .ok content'' ∧
        ¬ Precedes events (i, .write) (i.other, .read))

/-- A command that reads has read what the file holds. -/
theorem hasRead_of_open? {x : Workbench} {p : FilePath} {d : OpenDocument} {w w' : World}
    (h : (x.open? p).perform w = (.ok (some d), w')) :
    w' = w ∧ ∃ content, (w.tree.read x.around.cwd p).toOption = some content ∧
      (Progress.opened d).HasRead p content := by
  obtain ⟨rfl, content, t, hread, htext, rfl⟩ := open?_inv h
  exact ⟨rfl, content, by rw [hread]; rfl, rfl, htext⟩

/-- A command that writes records its result in what it has read. -/
theorem recordInFile_of_recorded {c : RunCommand} {content : Bytes} {d : OpenDocument}
    {r : RunResult} {status : ℕ} {w w' : World}
    (hread : (Progress.executed d r).HasRead c.document content)
    (h : (c.bench.recorded c.json d c.block r).perform w = (.ok status, w')) :
    ∃ content', recordInFile content c.block (.result r) = .ok content' ∧
      c.file? w' = some content' := by
  obtain ⟨hpath, htext⟩ := hread
  obtain ⟨new, hnew, hwritten⟩ := recorded_inv h
  refine ⟨Utf8.encode new.text, recordInFile_eq_ok_iff.mpr ⟨_, new, htext, hnew, rfl⟩, ?_⟩
  rw [RunCommand.file?, ← hpath, hwritten]
  rfl

theorem Move.not_exited {a : Act} (h : Move c s (i, a) s') {r : RunResult} {status : ℕ} :
    s.progress i ≠ .exited r status := by
  cases h with
  | read hi hread => simp [hi]
  | execute hi hkept => simp [hi]
  | write hi hwrite => simp [hi]

theorem Move.progress_of_ne {a : Act} (h : Move c s (i, a) s') {j : Side} (hj : j ≠ i) :
    s'.progress j = s.progress j := by
  cases h with
  | read hi hread => exact Pair.advance_of_ne hj ..
  | execute hi hkept => exact Pair.advance_of_ne hj ..
  | write hi hwrite => exact Pair.advance_of_ne hj ..

/-- A step of a command before any was written. -/
theorem Stage.move_unwritten {content : Bytes} {a : Act}
    (hfile : ∀ i, (c i).file? s.world = some content) (hwrite : ∀ i, (i, Act.write) ∉ events)
    (hprogress : ∀ i, s.progress i = .started ∧ (i, Act.read) ∉ events ∨
      (s.progress i).HasRead (c i).document content)
    (hmove : Move c s (i, a) s') (hsame : SameFile c s'.world) :
    Stage c content (events ++ [(i, a)]) s' := by
  -- the other command is where it was
  have hothers : a ≠ .write → ∀ j, j ≠ i → s'.progress j = .started ∧
      (j, Act.read) ∉ events ++ [(i, a)] ∨ (s'.progress j).HasRead (c j).document content := by
    intro _ j hj
    rw [hmove.progress_of_ne hj]
    refine (hprogress j).imp_left fun ⟨hstarted, hnot⟩ => ⟨hstarted, ?_⟩
    simp [hnot, hj]
  have hwrites : a ≠ .write → ∀ j, (j, Act.write) ∉ events ++ [(i, a)] := by
    intro ha j
    simp [hwrite j, Ne.symm ha]
  cases hmove with
  | read hi hread =>
    obtain ⟨rfl, content', hcontent, hhas⟩ := hasRead_of_open? hread
    obtain rfl : content' = content := Option.some.inj (hcontent.symm.trans (hfile i))
    refine .unwritten hfile (hwrites (by decide)) fun j => ?_
    by_cases hj : j = i
    · subst hj
      right
      rwa [Pair.advance_self]
    · exact hothers (by decide) j hj
  | execute hi hkept =>
    refine .unwritten (fun j => ?_) (hwrites (by decide)) fun j => ?_
    · rw [hsame.eq j i, Pair.world_advance, hkept, hfile i]
    · by_cases hj : j = i
      · subst hj
        have := (hprogress j).resolve_left (by simp [hi])
        rw [hi] at this
        right
        rwa [Pair.advance_self]
      · exact hothers (by decide) j hj
  | @write i d r status w hi hwritten =>
    have hread := (hprogress i).resolve_left (by simp [hi])
    rw [hi] at hread
    obtain ⟨content', hrecord, hnew⟩ := recordInFile_of_recorded hread hwritten
    have hnot : ¬ Precedes (events ++ [(i, .write)]) (i, .write) (i.other, .read) := by
      rw [precedes_concat]
      rintro (h | ⟨-, h⟩)
      · exact hwrite i h.mem_left
      · simp at h
    refine .written (i := i) (fun j => ?_) (Pair.advance_self ..) hrecord (by simp) ?_
    · rw [hsame.eq j i, Pair.world_advance, hnew]
    · rw [Pair.advance_of_ne i.other_ne]
      rcases hprogress i.other with ⟨hstarted, hunread⟩ | hhas
      · exact .inl ⟨hstarted, by simp [hunread]⟩
      · exact .inr (.inr ⟨hhas, hnot⟩)

/-- A step of a command when the other one has written. -/
theorem Stage.move_written {content content' : Bytes} {r : RunResult} {status : ℕ} {a : Act}
    (hfile : ∀ j, (c j).file? s.world = some content')
    (hi : s.progress i = .exited r status)
    (hrecord : recordInFile content (c i).block (.result r) = .ok content')
    (hwrite : (i, Act.write) ∈ events)
    (hother : s.progress i.other = .started ∧ (i.other, Act.read) ∉ events ∨
      (s.progress i.other).HasRead (c i.other).document content' ∧
        Precedes events (i, .write) (i.other, .read) ∨
      (s.progress i.other).HasRead (c i.other).document content ∧
        ¬ Precedes events (i, .write) (i.other, .read))
    (hmove : Move c s (i.other, a) s') (hsame : SameFile c s'.world) :
    Stage c content (events ++ [(i.other, a)]) s' := by
  have hi' : s'.progress i = .exited r status := by
    rw [hmove.progress_of_ne i.other_ne.symm, hi]
  have hkeeps : a ≠ .read → (Precedes (events ++ [(i.other, a)]) (i, .write) (i.other, .read) ↔
      Precedes events (i, .write) (i.other, .read)) := by
    intro ha
    simp [precedes_concat, ha]
  cases hmove with
  | read hstarted hread =>
    obtain ⟨rfl, content'', hcontent, hhas⟩ := hasRead_of_open? hread
    obtain rfl : content'' = content' := Option.some.inj (hcontent.symm.trans (hfile i.other))
    refine .written hfile hi' hrecord (by simp [hwrite]) (.inr (.inl ⟨?_, ?_⟩))
    · rwa [Pair.advance_self]
    · exact precedes_concat.mpr (.inr ⟨hwrite, rfl⟩)
  | execute hopened hkept =>
    refine .written (fun j => ?_) hi' hrecord (by simp [hwrite]) (.inr ?_)
    · rw [hsame.eq j i.other, Pair.world_advance, hkept, hfile i.other]
    · rw [hkeeps (by decide), Pair.advance_self]
      have := hother.resolve_left (by simp [hopened])
      rwa [hopened] at this
  | @write _ d r' status' w hexecuted hwritten =>
    have hread := hother.resolve_left (by simp [hexecuted])
    rw [hexecuted] at hread
    have hwrites : Precedes (events ++ [(i.other, .write)]) (i, .write) (i.other, .write) :=
      precedes_concat.mpr (.inr ⟨hwrite, rfl⟩)
    rcases hread with ⟨hread, hbefore⟩ | ⟨hread, hbefore⟩
    · obtain ⟨content'', hrecord', hnew⟩ := recordInFile_of_recorded hread hwritten
      refine .both (fun j => ?_) hi' (Pair.advance_self ..) hrecord hwrites
        (.inl ⟨hrecord', (hkeeps (by decide)).mpr hbefore⟩)
      rw [hsame.eq j i.other, Pair.world_advance, hnew]
    · obtain ⟨content'', hrecord', hnew⟩ := recordInFile_of_recorded hread hwritten
      refine .both (fun j => ?_) hi' (Pair.advance_self ..) hrecord hwrites
        (.inr ⟨hrecord', mt (hkeeps (by decide)).mp hbefore⟩)
      rw [hsame.eq j i.other, Pair.world_advance, hnew]

/-- **One step** leads from one stage to the next, or stays there. -/
theorem Stage.move {content : Bytes} {e : Event} (h : Stage c content events s)
    (hmove : Move c s e s') (hsame : SameFile c s'.world) : Stage c content (events ++ [e]) s' := by
  obtain ⟨j, a⟩ := e
  cases h with
  | unwritten hfile hwrite hprogress =>
    exact Stage.move_unwritten hfile hwrite hprogress hmove hsame
  | @written i r status content' hfile hi hrecord hwrite hother =>
    rcases Side.eq_or_other i j with rfl | rfl
    · exact absurd hi hmove.not_exited
    · exact Stage.move_written hfile hi hrecord hwrite hother hmove hsame
  | @both i _ _ _ _ _ _ _ hi hother =>
    rcases Side.eq_or_other i j with rfl | rfl
    · exact absurd hi hmove.not_exited
    · exact absurd hother hmove.not_exited

/-- Every run is at some stage. -/
theorem Runs.stage {content : Bytes} (h : Runs c s events s')
    (hsame : ∀ {events' s''}, Runs c s events' s'' → SameFile c s''.world)
    (hstart : ∀ i, s.progress i = .started) (hfile : (c .left).file? s.world = some content) :
    Stage c content events s' := by
  induction h with
  | nil =>
    refine .unwritten (fun i => ?_) (by simp) fun i => .inl ⟨hstart i, by simp⟩
    rw [(hsame .nil).eq i .left, hfile]
  | move hruns hmove ih => exact ih.move hmove (hsame (.move hruns hmove))

/-! ## What the file holds in the end -/

/-- Output without carriage returns recorded in a file and another one after it. -/
theorem recordAll_of_recordInFile {content between content' : Bytes} {t name name' : Text}
    {out out' : Output} (htext : documentText content = .ok t) (hout : '\r' ∉ out.payload)
    (h : recordInFile content name out = .ok between)
    (h' : recordInFile between name' out' = .ok content') :
    ∃ u, content' = Utf8.encode u ∧ recordAll t [(name, out), (name', out')] = .ok u := by
  obtain ⟨t', new, ht', hnew, rfl⟩ := recordInFile_eq_ok_iff.mp h
  obtain rfl : t' = t := Except.ok.inj (ht'.symm.trans htext)
  obtain ⟨v, new', hv, hnew', rfl⟩ := recordInFile_eq_ok_iff.mp h'
  have hplain := plainEnds_recorded (return_notMem_of_documentText htext) hout hnew
  have hread : documentText (Utf8.encode new.text) = .ok (plainEnds new.text) :=
    documentText_eq_ok_iff.mpr ⟨new.text, rfl, rfl⟩
  rw [hplain] at hread
  obtain rfl : v = new.text := Except.ok.inj (hv.symm.trans hread)
  exact ⟨new'.text, rfl, by rw [recordAll_cons hnew, recordAll_cons hnew', recordAll]⟩

/-- **Two runs of one document.**  When both commands exit with status zero, the file holds both
outputs, recorded one after the other, if the command that writes first does so before the other one
reads; then the order does not matter either, as far as what was written is read again as it is.
Else the file holds what recording the later output alone gives, and the other output is lost. -/
theorem runs_file {content : Bytes} {t : Text} {o : Outline}
    (hstart : ∀ i, s.progress i = .started)
    (hsame : ∀ {events' s''}, Runs c s events' s'' → SameFile c s''.world)
    (hfile : (c .left).file? s.world = some content) (htext : documentText content = .ok t)
    (ho : Outline.parse t = .ok o) (hnamed : ∀ b ∈ o.blocks, b.info.name.isSome)
    (hblocks : ∀ i, (c i).block ∈ o.blocks.map Block.name)
    (hne : (c .left).block ≠ (c .right).block) (hruns : Runs c s events s')
    (hexit : ∀ i, ∃ r, s'.progress i = .exited r 0) :
    ∃ i r r' content', s'.progress i = .exited r 0 ∧ s'.progress i.other = .exited r' 0 ∧
      Precedes events (i, .write) (i.other, .write) ∧
      (∀ j, (c j).file? s'.world = some content') ∧
      if Precedes events (i, .write) (i.other, .read) then
        (∃ between, recordInFile content (c i).block (.result r) = .ok between ∧
          recordInFile between (c i.other).block (.result r') = .ok content') ∧
        ('\r' ∉ (Output.result r).payload → ∃ u, content' = Utf8.encode u ∧
          recordAll t [((c i).block, .result r), ((c i.other).block, .result r')] = .ok u ∧
          recordAll t [((c i.other).block, .result r'), ((c i).block, .result r)] = .ok u)
      else recordInFile content (c i.other).block (.result r') = .ok content' := by
  have hexited : ∀ i r status, s'.progress i = .exited r status → s'.progress i = .exited r 0 := by
    intro i r status hi
    obtain ⟨r', hr'⟩ := hexit i
    rw [hi, Progress.exited.injEq] at hr'
    rw [hi, hr'.2]
  cases hruns.stage hsame hstart hfile with
  | unwritten _ _ hprogress =>
    obtain ⟨r, hr⟩ := hexit .left
    have := hprogress .left
    simp [hr, Progress.HasRead] at this
  | @written i _ _ _ _ _ _ _ hother =>
    obtain ⟨r, hr⟩ := hexit i.other
    simp [hr, Progress.HasRead] at hother
  | @both i r r' status status' between content' hfile' hi hother hrecord hwrites hread =>
    refine ⟨i, r, r', content', hexited i r status hi, hexited i.other r' status' hother, hwrites,
      hfile', ?_⟩
    rcases hread with ⟨hrecord', hbefore⟩ | ⟨hrecord', hbefore⟩
    · rw [if_pos hbefore]
      refine ⟨⟨between, hrecord, hrecord'⟩, fun hout => ?_⟩
      obtain ⟨u, hu, hall⟩ := recordAll_of_recordInFile htext hout hrecord hrecord'
      have hnames : Named t (o.blocks.map Block.name) := ⟨o, ho, hnamed, rfl⟩
      have hblock : (c i).block ≠ (c i.other).block := by
        cases i with
        | left => exact hne
        | right => exact hne.symm
      refine ⟨u, hu, hall, ?_⟩
      rw [← hall]
      exact (hnames.recordAll_swap (hblocks i) (hblocks i.other) hblock _ _ []).symm
    · rw [if_neg hbefore]
      exact hrecord'

/-- Commands for two blocks of the file `d`. -/
def commandsFor (b b' : Text) (i : Side) : RunCommand :=
  ⟨echoing [], false, .ofText "d".toList, match i with | .left => b | .right => b'⟩

/-- The file `d` when it holds a text. -/
def documentOf (t : Text) : OpenDocument := ⟨.ofText "d".toList, t, ["w".toList]⟩

theorem open?_documentOf {t : Text} {w : World} (htext : documentText (Utf8.encode t) = .ok t)
    (htree : w.tree = (worldOf t).tree) :
    ((echoing []).open? (.ofText "d".toList)).perform w = (.ok (some (documentOf t)), w) := by
  have hread : w.tree.read (echoing []).around.cwd (.ofText "d".toList) = .ok (Utf8.encode t) := by
    rw [htree]
    rfl
  exact open?_eq rfl hread htext

theorem exists_recorded_documentOf {b t u : Text} {r : RunResult} {new : Recorded} {w : World}
    (htree : w.tree = (worldOf u).tree) (hnew : record t b (.result r) = .ok new) :
    ∃ w', ((echoing []).recorded false (documentOf t) b r).perform w = (.ok 0, w') ∧
      w'.tree = (worldOf new.text).tree := by
  have hwrite : w.tree.write (echoing []).around.cwd (.ofText "d".toList)
      (Utf8.encode new.text) = .ok (worldOf new.text).tree := by
    rw [htree]
    rfl
  exact exists_recorded (d := documentOf t) hnew hwrite

/-- Two blocks that leave nothing behind. -/
def twoBlocks : Text := "```sh a\n```\n```sh b\n```".toList

/-- What the blocks are said to leave behind. -/
def resultOf (digit : Char) : RunResult := ⟨[digit, '\n'], [], 0⟩

theorem parse_twoBlocks : Outline.parse twoBlocks = .ok ⟨4,
    [.block ⟨1, 2, "```".toList, ⟨"sh".toList, some ['a'], none, [], [], false, false⟩, []⟩,
      .block ⟨3, 4, "```".toList, ⟨"sh".toList, some ['b'], none, [], [], false, false⟩, []⟩],
    [⟨1, [], .implicit⟩]⟩ := by decide +kernel

/-- The two blocks with output of the first one. -/
def withFirst : Text :=
  "```sh a\n```\n\n```output\nOutput:\n1\n\nStderr:\n\n\nExit code: 0\n```\n```sh b\n```".toList

theorem record_twoBlocks : record twoBlocks ['a'] (.result (resultOf '1')) =
    .ok ⟨⟨3, 3, '\n' :: (Output.result (resultOf '1')).region⟩, withFirst⟩ := by decide +kernel

/-- The second command starts when the first one is done. -/
theorem runs_file_one_by_one :
    let c := commandsFor ['a'] ['b']
    let steps := [(['a'], Output.result (resultOf '1')), (['b'], Output.result (resultOf '2'))]
    ∃ events s' u, Runs c ⟨worldOf twoBlocks, fun _ => .started⟩ events s' ∧
      (∀ i, ∃ r, s'.progress i = .exited r 0) ∧ Precedes events (.left, .write) (.right, .read) ∧
      (∀ j, (c j).file? s'.world = some (Utf8.encode u)) ∧
      recordAll twoBlocks steps = .ok u ∧ recordAll twoBlocks steps.reverse = .ok u := by
  intro c steps
  let s : Pair := ⟨worldOf twoBlocks, fun _ => .started⟩
  obtain ⟨w, hw, htree⟩ := exists_recorded_documentOf (w := s.world) (u := twoBlocks) rfl
    record_twoBlocks
  have hfirst := Runs.alone (c := c) (s := s) (i := .left) rfl
    (open?_documentOf (by decide +kernel) rfl) rfl hw
  have hnew : record withFirst ['b'] (.result (resultOf '2')) =
      .ok ⟨⟨15, 15, '\n' :: (Output.result (resultOf '2')).region⟩,
        withFirst ++ '\n' :: '\n' :: (Output.result (resultOf '2')).region⟩ := by decide +kernel
  obtain ⟨w', hw', -⟩ := exists_recorded_documentOf htree hnew
  have hsecond := Runs.alone (c := c) (i := .right)
    (s := s.advance .left w (.exited (resultOf '1') 0)) rfl
    (open?_documentOf (by decide +kernel) htree) rfl hw'
  have hruns := hfirst.trans hsecond
  generalize hs' : (s.advance .left w (.exited (resultOf '1') 0)).advance .right w'
    (.exited (resultOf '2') 0) = s' at hruns
  have hleft : s'.progress .left = .exited (resultOf '1') 0 := by rw [← hs']; rfl
  have hright : s'.progress .right = .exited (resultOf '2') 0 := by rw [← hs']; rfl
  have hexit : ∀ i, ∃ r, s'.progress i = .exited r 0 := by
    intro i
    cases i with
    | left => exact ⟨_, hleft⟩
    | right => exact ⟨_, hright⟩
  obtain ⟨i, r, r', content, hi, hother, hwrites, hfile, hif⟩ := runs_file (c := c) (s := s)
    (fun _ => rfl) (fun _ => rfl) rfl (by decide +kernel) parse_twoBlocks (by decide +kernel)
    (fun i => by cases i <;> decide +kernel) (by decide) hruns hexit
  cases i with
  | right => exact absurd hwrites (by decide)
  | left =>
    obtain rfl : resultOf '1' = r := (Progress.exited.inj (hleft.symm.trans hi)).1
    obtain rfl : resultOf '2' = r' := (Progress.exited.inj (hright.symm.trans hother)).1
    rw [if_pos (by decide)] at hif
    obtain ⟨u, rfl, hboth, hboth'⟩ := hif.2 (by decide +kernel)
    exact ⟨_, s', u, hruns, hexit, by decide, hfile, hboth, hboth'⟩

/-- Both commands read the file before one of them writes it: the output that is written first is
lost. -/
theorem runs_file_overlapping :
    ¬ ∀ (c : Side → RunCommand) (s s' : Pair) (events : List Event) (content : Bytes) (t : Text)
      (o : Outline), (∀ i, s.progress i = .started) →
      (∀ events' s'', Runs c s events' s'' → SameFile c s''.world) →
      (c .left).file? s.world = some content → documentText content = .ok t →
      Outline.parse t = .ok o → (∀ b ∈ o.blocks, b.info.name.isSome) →
      (∀ i, (c i).block ∈ o.blocks.map Block.name) → (c .left).block ≠ (c .right).block →
      Runs c s events s' → (∀ i, ∃ r, s'.progress i = .exited r 0) →
      ∃ r r' u, s'.progress .left = .exited r 0 ∧ s'.progress .right = .exited r' 0 ∧
        (c .left).file? s'.world = some (Utf8.encode u) ∧
        recordAll t [((c .left).block, .result r), ((c .right).block, .result r')] = .ok u := by
  intro h
  let c := commandsFor ['a'] ['b']
  let s : Pair := ⟨worldOf twoBlocks, fun _ => .started⟩
  have hopen := open?_documentOf (t := twoBlocks) (w := s.world) (by decide +kernel) rfl
  -- both have read and executed
  have hruns := ((((Runs.nil (c := c) (s := s)).move (.read (i := .left) rfl hopen)).move
    (.read (i := .right) rfl hopen)).move
    (.execute (i := .left) (r := resultOf '1') (w := s.world) rfl rfl)).move
    (.execute (i := .right) (r := resultOf '2') (w := s.world) rfl rfl)
  obtain ⟨w, hw, htree⟩ := exists_recorded_documentOf (w := s.world) (u := twoBlocks) rfl
    record_twoBlocks
  have hnew : record twoBlocks ['b'] (.result (resultOf '2')) =
      .ok ⟨⟨5, 5, '\n' :: (Output.result (resultOf '2')).region⟩,
        twoBlocks ++ '\n' :: '\n' :: (Output.result (resultOf '2')).region⟩ := by decide +kernel
  obtain ⟨w', hw', htree'⟩ := exists_recorded_documentOf htree hnew
  have hall := (hruns.move (.write (i := .left) rfl hw)).move (.write (i := .right) rfl hw')
  generalize hs' : Pair.advance _ _ _ _ = s' at hall
  have hleft : s'.progress .left = .exited (resultOf '1') 0 := by rw [← hs']; rfl
  have hright : s'.progress .right = .exited (resultOf '2') 0 := by rw [← hs']; rfl
  have hfile : (c .left).file? s'.world = some (Utf8.encode
      (twoBlocks ++ '\n' :: '\n' :: (Output.result (resultOf '2')).region)) := by
    rw [← hs', RunCommand.file?, Pair.world_advance, htree']
    rfl
  obtain ⟨r, r', u, hr, hr', hu, hboth⟩ := h c s s' _ _ twoBlocks _ (fun _ => rfl)
    (fun _ _ _ => rfl) rfl (by decide +kernel) parse_twoBlocks (by decide +kernel)
    (fun i => by cases i <;> decide +kernel) (by decide) hall (fun i => by
      cases i with
      | left => exact ⟨_, hleft⟩
      | right => exact ⟨_, hright⟩)
  obtain rfl : resultOf '1' = r := (Progress.exited.inj (hleft.symm.trans hr)).1
  obtain rfl : resultOf '2' = r' := (Progress.exited.inj (hright.symm.trans hr')).1
  obtain rfl := Utf8.encode_injective (Option.some.inj (hfile.symm.trans hu))
  exact absurd hboth (by decide +kernel)

end Literate.CommandLine

import Mathlib
import Literate.Pdf.Print
import Literate.Proofs.Action
import Literate.Proofs.Files.FileTree

/-!
# What printing says

A page is printed when the browser went through all its steps and wrote the file.  The confirmation is
also given when the browser wrote nothing and a file stands there from before: the file is only looked
for at the end.  Otherwise printing fails, and what it fails with is known exactly.  It is an export
error for directories that cannot be made, for a file that cannot be written or is not there, and for
the failures of the browser that are expected; it is none for any other failure of the browser, for a
home directory that is not known, for null characters in the path, and for a name too long to be asked
for.  A browser that was started has been closed in every case.

* `FileTree.makeDirs_adds` tells why a file that is found at the end stood there before.
* `Pdf.Prints`, `Pdf.FindsOld`: the two ways to a confirmation.
* `Pdf.Reports`, `Pdf.Escapes`: the causes of export errors, and the faults that are none.
* `Pdf.printing_cases`: how far printing comes.
* `Pdf.printing_fault_iff`: what goes wrong.
* `Pdf.print_outcome`: what comes of printing.
-/

namespace Literate.Pdf

open Text

variable {b : Browser} {html : Text} {options : PrintOptions} {cwd : Location} {p : FilePath}
  {t t' : FileTree} {f : Fault}

/-! ## The steps of a visit -/

theorem faultAt_eq_none_iff {step : BrowserStep} :
    faultAt b step = none ↔ b.failure? step = none := by
  unfold faultAt
  rw [Option.map_eq_none_iff]

theorem faultAt_eq_some_iff {step : BrowserStep} :
    faultAt b step = some f ↔ ∃ e, b.failure? step = some e ∧ f = .ofBrowser step e := by
  unfold faultAt
  rw [Option.map_eq_some_iff]
  simp only [eq_comm]

/-- The order in which failures count.  Closing comes right after starting: a failure to close takes
the place of what went wrong before. -/
def rank : BrowserStep → ℕ
  | .start => 0
  | .close => 1
  | .openPage => 2
  | .showPage => 3
  | .print => 4

theorem rank_injective {s s' : BrowserStep} (h : rank s = rank s') : s = s' := by
  cases s <;> cases s' <;> first | rfl | cases h

theorem rank_lt_print {s : BrowserStep} (h : s ≠ .print) : rank s < rank .print := by
  cases s with
  | print => exact absurd rfl h
  | start | close | openPage | showPage => decide

/-- When nothing fails up to a step, nothing fails before the next one. -/
theorem failure?_eq_none_succ {step : BrowserStep}
    (h : ∀ s, rank s < rank step → b.failure? s = none) (hstep : b.failure? step = none) :
    ∀ s, rank s < rank step + 1 → b.failure? s = none := by
  intro s hs
  rcases Nat.lt_succ_iff_lt_or_eq.mp hs with hlt | heq
  · exact h s hlt
  · rwa [rank_injective heq]

/-- The first fault counts, except that a failure to close comes first; before the browser is started
there is nothing to close. -/
theorem visit_fault (b : Browser) (html : Text) (options : PrintOptions) (cwd : Location)
    (p : FilePath) (t : FileTree) :
    (visit b html options cwd p t).fault =
      (faultAt b .start).or ((faultAt b .close).or ((faultAt b .openPage).or
        ((faultAt b .showPage).or (tell b cwd p t).2))) := by
  unfold visit present
  cases faultAt b .start <;> cases faultAt b .openPage <;> cases faultAt b .showPage <;> rfl

/-- The tree changes only when the browser is told to print. -/
theorem visit_tree (h₁ : b.failure? .start = none) (h₂ : b.failure? .openPage = none)
    (h₃ : b.failure? .showPage = none) :
    (visit b html options cwd p t).tree = (tell b cwd p t).1 := by
  unfold visit present
  rw [faultAt_eq_none_iff.mpr h₁, faultAt_eq_none_iff.mpr h₂, faultAt_eq_none_iff.mpr h₃]

theorem visit_started_iff :
    (visit b html options cwd p t).visit.started = true ↔ b.failure? .start = none := by
  rw [← faultAt_eq_none_iff]
  unfold visit present
  cases faultAt b .start <;> cases faultAt b .openPage <;> cases faultAt b .showPage <;>
    simp [Visit.none]

/-- A browser that was started is closed. -/
theorem visit_closed (b : Browser) (html : Text) (options : PrintOptions) (cwd : Location)
    (p : FilePath) (t : FileTree) :
    (visit b html options cwd p t).visit.closed = (visit b html options cwd p t).visit.started := by
  unfold visit present
  cases faultAt b .start <;> cases faultAt b .openPage <;> cases faultAt b .showPage <;> rfl

/-! ## What is written -/

/-- What a browser leaves that is told to print: the tree as it was, or with the file. -/
def Writes (b : Browser) (cwd : Location) (p : FilePath) (t t' : FileTree) : Prop :=
  b.written = none ∧ t' = t ∨
    ∃ content, b.written = some content ∧ p.hasNull = false ∧ t.write cwd p content = .ok t'

/-- The faults of what cannot be written. -/
inductive Unwritable (b : Browser) (cwd : Location) (p : FilePath) (t : FileTree) : Fault → Prop
  | null {content : Bytes} (hwritten : b.written = some content) (hname : p.hasNull = true) :
      Unwritable b cwd p t (.path .nullCharacter)
  | file {content : Bytes} {e : OsError} (hwritten : b.written = some content)
      (hname : p.hasNull = false) (hwrite : t.write cwd p content = .error e) :
      Unwritable b cwd p t (.export (.file e))

theorem writes_or_unwritable (b : Browser) (cwd : Location) (p : FilePath) (t : FileTree) :
    (∃ t', Writes b cwd p t t') ∨ ∃ f, Unwritable b cwd p t f := by
  cases hwritten : b.written with
  | none => exact .inl ⟨t, .inl ⟨hwritten, rfl⟩⟩
  | some content =>
    cases hname : p.hasNull with
    | true => exact .inr ⟨_, .null hwritten hname⟩
    | false =>
      cases hwrite : t.write cwd p content with
      | ok t' => exact .inl ⟨t', .inr ⟨content, hwritten, hname, hwrite⟩⟩
      | error e => exact .inr ⟨_, .file hwritten hname hwrite⟩

/-- The browser may still fail when it has written. -/
theorem Writes.tell_eq (h : Writes b cwd p t t') : tell b cwd p t = (t', faultAt b .print) := by
  unfold tell
  rcases h with ⟨hwritten, rfl⟩ | ⟨content, hwritten, hname, hwrite⟩
  · rw [hwritten]
  · rw [hwritten]
    dsimp only
    rw [hname, hwrite]
    rfl

theorem Unwritable.tell_eq (h : Unwritable b cwd p t f) : tell b cwd p t = (t, some f) := by
  unfold tell
  cases h with
  | null hwritten hname =>
    rw [hwritten]
    dsimp only
    rw [hname]
    rfl
  | file hwritten hname hwrite =>
    rw [hwritten]
    dsimp only
    rw [hname, hwrite]
    rfl

/-- Telling goes well when the browser can write and does not fail afterwards. -/
theorem tell_eq_iff :
    tell b cwd p t = (t', none) ↔ b.failure? .print = none ∧ Writes b cwd p t t' := by
  constructor
  · intro h
    rcases writes_or_unwritable b cwd p t with ⟨u, hwrites⟩ | ⟨f, hfault⟩
    · rw [hwrites.tell_eq, Prod.mk.injEq, faultAt_eq_none_iff] at h
      obtain ⟨rfl, hprint⟩ := h
      exact ⟨hprint, hwrites⟩
    · rw [hfault.tell_eq] at h
      cases h
  · rintro ⟨hprint, hwrites⟩
    rw [hwrites.tell_eq, faultAt_eq_none_iff.mpr hprint]

theorem tell_fault_iff :
    (tell b cwd p t).2 = some f ↔
      Unwritable b cwd p t f ∨ (∃ t', Writes b cwd p t t') ∧ faultAt b .print = some f := by
  constructor
  · intro h
    rcases writes_or_unwritable b cwd p t with ⟨t', hwrites⟩ | ⟨f', hfault⟩
    · rw [hwrites.tell_eq] at h
      exact .inr ⟨⟨t', hwrites⟩, h⟩
    · rw [hfault.tell_eq] at h
      cases h
      exact .inl hfault
  · rintro (hfault | ⟨⟨t', hwrites⟩, hprint⟩)
    · rw [hfault.tell_eq]
    · rw [hwrites.tell_eq]
      exact hprint

/-! ## What goes wrong with a browser -/

/-- A visit goes well when every step does. -/
theorem visit_eq_none_iff :
    (visit b html options cwd p t).fault = none ↔
      (∀ step, b.failure? step = none) ∧ (tell b cwd p t).2 = none := by
  rw [visit_fault, Option.or_eq_none_iff, Option.or_eq_none_iff, Option.or_eq_none_iff,
    Option.or_eq_none_iff, faultAt_eq_none_iff, faultAt_eq_none_iff, faultAt_eq_none_iff,
    faultAt_eq_none_iff]
  constructor
  · rintro ⟨hstart, hclose, hopen, hshow, htell⟩
    refine ⟨fun step => ?_, htell⟩
    cases step with
    | start => exact hstart
    | openPage => exact hopen
    | showPage => exact hshow
    | print => exact (tell_eq_iff.mp (Prod.ext rfl htell)).1
    | close => exact hclose
  · rintro ⟨hsteps, htell⟩
    exact ⟨hsteps _, hsteps _, hsteps _, hsteps _, htell⟩

/-- A browser breaks off at a step: it fails there, and no failure counts before. -/
structure BreaksOff (b : Browser) (cwd : Location) (p : FilePath) (t : FileTree)
    (step : BrowserStep) (e : BrowserError) : Prop where
  fails : b.failure? step = some e
  first : ∀ s, rank s < rank step → b.failure? s = none
  /-- What cannot be written counts before a failure to print. -/
  writes : step = .print → ∃ t', Writes b cwd p t t'

/-- **What goes wrong with a browser**: it breaks off, or it cannot write when it comes to that. -/
theorem visit_fault_iff (html : Text) (options : PrintOptions) :
    (visit b html options cwd p t).fault = some f ↔
      (∃ step e, BreaksOff b cwd p t step e ∧ f = .ofBrowser step e) ∨
        (∀ step, step ≠ .print → b.failure? step = none) ∧ Unwritable b cwd p t f := by
  rw [visit_fault, Option.or_eq_some_iff, Option.or_eq_some_iff, Option.or_eq_some_iff,
    Option.or_eq_some_iff, tell_fault_iff, faultAt_eq_none_iff, faultAt_eq_none_iff,
    faultAt_eq_none_iff, faultAt_eq_none_iff]
  constructor
  · intro h
    have hbreaks {step : BrowserStep} (hfault : faultAt b step = some f)
        (hfirst : ∀ s, rank s < rank step → b.failure? s = none)
        (hwrites : step = .print → ∃ t', Writes b cwd p t t') :
        ∃ step e, BreaksOff b cwd p t step e ∧ f = .ofBrowser step e := by
      obtain ⟨e, he, rfl⟩ := faultAt_eq_some_iff.mp hfault
      exact ⟨step, e, ⟨he, hfirst, hwrites⟩, rfl⟩
    -- each step counts when those of lower rank went well
    have hclear₀ : ∀ s, rank s < rank .start → b.failure? s = none :=
      fun s hs => absurd hs (Nat.not_lt_zero _)
    rcases h with h | ⟨hstart, h⟩
    · exact .inl (hbreaks h hclear₀ nofun)
    have hclear₁ : ∀ s, rank s < rank .close → b.failure? s = none :=
      failure?_eq_none_succ hclear₀ hstart
    rcases h with h | ⟨hclose, h⟩
    · exact .inl (hbreaks h hclear₁ nofun)
    have hclear₂ : ∀ s, rank s < rank .openPage → b.failure? s = none :=
      failure?_eq_none_succ hclear₁ hclose
    rcases h with h | ⟨hopen, h⟩
    · exact .inl (hbreaks h hclear₂ nofun)
    have hclear₃ : ∀ s, rank s < rank .showPage → b.failure? s = none :=
      failure?_eq_none_succ hclear₂ hopen
    rcases h with h | ⟨hshow, h⟩
    · exact .inl (hbreaks h hclear₃ nofun)
    have hclear₄ : ∀ s, rank s < rank .print → b.failure? s = none :=
      failure?_eq_none_succ hclear₃ hshow
    rcases h with h | ⟨hwrites, h⟩
    · exact .inr ⟨fun s hs => hclear₄ s (rank_lt_print hs), h⟩
    · exact .inl (hbreaks h hclear₄ fun _ => hwrites)
  · rintro (⟨step, e, h, rfl⟩ | ⟨hsteps, h⟩)
    · have hfault := faultAt_eq_some_iff.mpr ⟨e, h.fails, rfl⟩
      cases step with
      | start => exact .inl hfault
      | close => exact .inr ⟨h.first _ (by decide), .inl hfault⟩
      | openPage => exact .inr ⟨h.first _ (by decide), .inr ⟨h.first _ (by decide), .inl hfault⟩⟩
      | showPage =>
        exact .inr ⟨h.first _ (by decide), .inr ⟨h.first _ (by decide),
          .inr ⟨h.first _ (by decide), .inl hfault⟩⟩⟩
      | print =>
        exact .inr ⟨h.first _ (by decide), .inr ⟨h.first _ (by decide),
          .inr ⟨h.first _ (by decide), .inr ⟨h.first _ (by decide), .inr ⟨h.writes rfl, hfault⟩⟩⟩⟩⟩
    · have hstep := fun step (h : step ≠ .print) => hsteps step h
      exact .inr ⟨hstep _ nofun, .inr ⟨hstep _ nofun, .inr ⟨hstep _ nofun, .inr ⟨hstep _ nofun,
        .inl h⟩⟩⟩⟩

/-! ## The file at the end -/

theorem missing_eq_none_iff :
    missing cwd p t = none ↔ p.hasNull = false ∧ t.isFile cwd p = .ok true := by
  unfold missing
  by_cases hnull : p.hasNull = true
  · rw [if_pos hnull]
    simp [hnull]
  · rw [if_neg hnull]
    cases hfile : t.isFile cwd p with
    | error e => simp
    | ok found => cases found <;> simp [hnull]

theorem missing_fault_iff :
    missing cwd p t = some f ↔
      f = .export .noFile ∧ (p.hasNull = true ∨ t.isFile cwd p = .ok false) ∨
        p.hasNull = false ∧ ∃ e, t.isFile cwd p = .error e ∧ f = .file e := by
  unfold missing
  cases hnull : p.hasNull with
  | true =>
    rw [if_pos rfl, Option.some.injEq]
    simp [eq_comm]
  | false =>
    rw [if_neg Bool.false_ne_true]
    cases hfile : t.isFile cwd p with
    | error e => simp [eq_comm]
    | ok found => cases found <;> simp [eq_comm]

/-- A path without null characters has none above its last part. -/
theorem hasNull_parent (h : p.hasNull = false) : p.parent.hasNull = false := by
  unfold FilePath.hasNull at h ⊢
  rw [List.any_eq_false] at h ⊢
  exact fun part hpart => h part (List.mem_of_mem_dropLast hpart)

/-! ## Two ways to a confirmation -/

/-- The browser goes through all its steps and writes the file, below directories that are made when
they are missing. -/
structure Prints (b : Browser) (cwd : Location) (p : FilePath) (t t' : FileTree) : Prop where
  steps : ∀ step, b.failure? step = none
  hasNull_eq : p.hasNull = false
  written : ∃ content, b.written = some content ∧ t.writeBelow cwd p content = (t', none)

/-- The directories were made and the file was written. -/
theorem Prints.dirs (h : Prints b cwd p t t') :
    ∃ t₁ content, t.makeDirs cwd p.parent = (t₁, none) ∧ b.written = some content ∧
      t₁.write cwd p content = .ok t' := by
  obtain ⟨content, hcontent, hwrite⟩ := h.written
  unfold FileTree.writeBelow at hwrite
  cases hdirs : t.makeDirs cwd p.parent with
  | mk t₁ failure =>
    rw [hdirs] at hwrite
    cases failure with
    | some e => cases hwrite
    | none =>
      dsimp only at hwrite
      cases hwritten : t₁.write cwd p content with
      | error e =>
        rw [hwritten] at hwrite
        cases hwrite
      | ok u =>
        rw [hwritten] at hwrite
        cases hwrite
        exact ⟨t₁, content, rfl, hcontent, hwritten⟩

/-- What was printed stands at the path. -/
theorem Prints.read (h : Prints b cwd p t t') :
    ∃ content, b.written = some content ∧ t'.read cwd p = .ok content := by
  obtain ⟨t₁, content, -, hcontent, hwrite⟩ := h.dirs
  exact ⟨content, hcontent, FileTree.read_of_write hwrite⟩

/-- The browser goes through all its steps and writes nothing, but a file has stood at the end of the
path before. -/
structure FindsOld (b : Browser) (cwd : Location) (p : FilePath) (t t' : FileTree) : Prop where
  steps : ∀ step, b.failure? step = none
  hasNull_eq : p.hasNull = false
  written : b.written = none
  dirs : t.makeDirs cwd p.parent = (t', none)
  old : ∃ l content, t'.walk (FileTree.origin cwd p) p.parts = .ok l ∧
    t.node? l = some (.file content)

/-! ## Two ways to fail -/

/-- The directories are made, or there already, so that it comes to the browser. -/
structure Ready (cwd : Location) (p : FilePath) (t t' : FileTree) : Prop where
  parent : p.parent.hasNull = false
  dirs : t.makeDirs cwd p.parent = (t', none)

/-- The causes of export errors. -/
inductive Reports (b : Browser) (cwd : Location) (p : FilePath) (t : FileTree) : ExportCause → Prop
  /-- The directories cannot be made. -/
  | dirs {t' : FileTree} {e : OsError} (hparent : p.parent.hasNull = false)
      (hdirs : t.makeDirs cwd p.parent = (t', some e)) : Reports b cwd p t (.file e)
  /-- The browser fails in a way that is expected. -/
  | browser {t' : FileTree} {step : BrowserStep} {e : BrowserError} (hready : Ready cwd p t t')
      (hbreaks : BreaksOff b cwd p t' step e) (he : e.isExport = true) :
      Reports b cwd p t (.browser step e)
  /-- The file cannot be written. -/
  | file {t' : FileTree} {cause : ExportCause} (hready : Ready cwd p t t')
      (hsteps : ∀ step, step ≠ .print → b.failure? step = none)
      (hwrite : Unwritable b cwd p t' (.export cause)) : Reports b cwd p t cause
  /-- Nothing was written, and no file is there. -/
  | noFile {t' : FileTree} (hready : Ready cwd p t t') (hsteps : ∀ step, b.failure? step = none)
      (hwritten : b.written = none) (hfile : p.hasNull = true ∨ t'.isFile cwd p = .ok false) :
      Reports b cwd p t .noFile

/-- The faults that are no export errors. -/
inductive Escapes (b : Browser) (cwd : Location) (p : FilePath) (t : FileTree) : Fault → Prop
  /-- A null character above the last part of the path. -/
  | parent (hparent : p.parent.hasNull = true) : Escapes b cwd p t (.path .nullCharacter)
  /-- The browser fails in a way that is not expected. -/
  | browser {t' : FileTree} {step : BrowserStep} {e : BrowserError} (hready : Ready cwd p t t')
      (hbreaks : BreaksOff b cwd p t' step e) (he : e.isExport = false) :
      Escapes b cwd p t (.browser e)
  /-- A null character in the last part, when something is written. -/
  | name {t' : FileTree} {content : Bytes} (hready : Ready cwd p t t')
      (hsteps : ∀ step, step ≠ .print → b.failure? step = none)
      (hwritten : b.written = some content) (hname : p.hasNull = true) :
      Escapes b cwd p t (.path .nullCharacter)
  /-- A name that is too long to be asked for, when nothing was written. -/
  | ask {t' : FileTree} {e : OsError} (hready : Ready cwd p t t')
      (hsteps : ∀ step, b.failure? step = none) (hwritten : b.written = none)
      (hname : p.hasNull = false) (hask : t'.isFile cwd p = .error e) : Escapes b cwd p t (.file e)

/-! ## What comes of printing -/

/-- Once the directories are there, what comes of the browser counts, and then the file. -/
theorem printing_of_dirs (hparent : p.parent.hasNull = false)
    (hdirs : t.makeDirs cwd p.parent = (t', none)) :
    printing b html options cwd p t =
      { visit b html options cwd p t' with
        fault := (visit b html options cwd p t').fault.or
          (missing cwd p (visit b html options cwd p t').tree) } := by
  unfold printing
  rw [hparent, hdirs]
  rfl

/-- How far printing comes: not to the directories, not to the browser, or to the end. -/
theorem printing_cases (b : Browser) (html : Text) (options : PrintOptions) (cwd : Location)
    (p : FilePath) (t : FileTree) :
    (p.parent.hasNull = true ∧
        printing b html options cwd p t = ⟨t, .none, some (.path .nullCharacter)⟩) ∨
      (p.parent.hasNull = false ∧ ∃ t₁ e, t.makeDirs cwd p.parent = (t₁, some e) ∧
        printing b html options cwd p t = ⟨t₁, .none, some (.export (.file e))⟩) ∨
      (p.parent.hasNull = false ∧ ∃ t₁, t.makeDirs cwd p.parent = (t₁, none) ∧
        printing b html options cwd p t =
          { visit b html options cwd p t₁ with
            fault := (visit b html options cwd p t₁).fault.or
              (missing cwd p (visit b html options cwd p t₁).tree) }) := by
  cases hparent : p.parent.hasNull with
  | true =>
    refine .inl ⟨rfl, ?_⟩
    unfold printing
    rw [hparent]
    rfl
  | false =>
    right
    cases hdirs : t.makeDirs cwd p.parent with
    | mk t₁ failure =>
      cases failure with
      | some e =>
        refine .inl ⟨rfl, t₁, e, rfl, ?_⟩
        unfold printing
        rw [hparent, hdirs]
        rfl
      | none => exact .inr ⟨rfl, t₁, rfl, printing_of_dirs hparent hdirs⟩

theorem printing_closed (b : Browser) (html : Text) (options : PrintOptions) (cwd : Location)
    (p : FilePath) (t : FileTree) :
    (printing b html options cwd p t).visit.closed =
      (printing b html options cwd p t).visit.started := by
  rcases printing_cases b html options cwd p t with ⟨-, h⟩ | ⟨-, t₁, e, -, h⟩ | ⟨-, t₁, -, h⟩
  · rw [h]
    rfl
  · rw [h]
    rfl
  · rw [h]
    exact visit_closed b html options cwd p t₁

/-- A browser is started when the directories are there, unless it does not start. -/
theorem printing_started_iff :
    (printing b html options cwd p t).visit.started = true ↔
      (∃ t', Ready cwd p t t') ∧ b.failure? .start = none := by
  rcases printing_cases b html options cwd p t with
    ⟨hparent, h⟩ | ⟨hparent, t₁, e, hdirs, h⟩ | ⟨hparent, t₁, hdirs, h⟩
  · rw [h]
    refine iff_of_false Bool.false_ne_true ?_
    rintro ⟨⟨t', hready⟩, -⟩
    cases hparent.symm.trans hready.parent
  · rw [h]
    refine iff_of_false Bool.false_ne_true ?_
    rintro ⟨⟨t', hready⟩, -⟩
    cases hdirs.symm.trans hready.dirs
  · rw [h]
    dsimp only
    rw [visit_started_iff]
    exact (and_iff_right ⟨t₁, hparent, hdirs⟩).symm

/-- Printing goes well when telling does and the file is there. -/
theorem printing_of_tell {t₁ : FileTree} (hsteps : ∀ step, b.failure? step = none)
    (hnull : p.hasNull = false) (hdirs : t.makeDirs cwd p.parent = (t₁, none))
    (htell : tell b cwd p t₁ = (t', none)) (hfile : t'.isFile cwd p = .ok true) :
    (printing b html options cwd p t).tree = t' ∧ (printing b html options cwd p t).fault = none := by
  have htree : (visit b html options cwd p t₁).tree = t' := by
    rw [visit_tree (hsteps _) (hsteps _) (hsteps _), htell]
  have hvisit : (visit b html options cwd p t₁).fault = none :=
    visit_eq_none_iff.mpr ⟨hsteps, by rw [htell]⟩
  rw [printing_of_dirs (hasNull_parent hnull) hdirs]
  refine ⟨htree, ?_⟩
  dsimp only
  rw [htree, hvisit, Option.none_or]
  exact missing_eq_none_iff.mpr ⟨hnull, hfile⟩

/-- When printing went well, telling did and the file is there. -/
theorem printing_inv (h : (printing b html options cwd p t).fault = none) :
    (∀ step, b.failure? step = none) ∧ p.hasNull = false ∧
      ∃ t₁, t.makeDirs cwd p.parent = (t₁, none) ∧
        tell b cwd p t₁ = ((printing b html options cwd p t).tree, none) ∧
        (printing b html options cwd p t).tree.isFile cwd p = .ok true := by
  rcases printing_cases b html options cwd p t with
    ⟨-, hprinting⟩ | ⟨-, t₁, e, -, hprinting⟩ | ⟨-, t₁, hdirs, hprinting⟩
  · rw [hprinting] at h
    cases h
  · rw [hprinting] at h
    cases h
  · rw [hprinting] at h ⊢
    dsimp only at h ⊢
    rw [Option.or_eq_none_iff, visit_eq_none_iff, missing_eq_none_iff] at h
    obtain ⟨⟨hsteps, htell⟩, hnull, hfile⟩ := h
    refine ⟨hsteps, hnull, t₁, hdirs, ?_, hfile⟩
    rw [visit_tree (hsteps _) (hsteps _) (hsteps _)]
    exact Prod.ext rfl htell

/-- **When printing is confirmed**: when the file was written, or when nothing was and a file was there
before. -/
theorem printing_eq_none_iff (html : Text) (options : PrintOptions) :
    (printing b html options cwd p t).tree = t' ∧ (printing b html options cwd p t).fault = none ↔
      Prints b cwd p t t' ∨ FindsOld b cwd p t t' := by
  constructor
  · rintro ⟨rfl, hfault⟩
    obtain ⟨hsteps, hnull, t₁, hdirs, htell, hfile⟩ := printing_inv hfault
    rcases (tell_eq_iff.mp htell).2 with ⟨hnothing, htree⟩ | ⟨content, hcontent, -, hwrite⟩
    · right
      have hadds := FileTree.makeDirs_adds t cwd p.parent
      rw [hdirs] at hadds
      rw [htree] at hfile ⊢
      obtain ⟨l, content, hwalk, hl⟩ := FileTree.isFile_eq_true_iff.mp hfile
      exact ⟨hsteps, hnull, hnothing, hdirs, l, content, hwalk, hadds.file_iff.mp hl⟩
    · left
      refine ⟨hsteps, hnull, content, hcontent, ?_⟩
      unfold FileTree.writeBelow
      rw [hdirs]
      dsimp only
      rw [hwrite]
  · rintro (h | h)
    · obtain ⟨t₁, content, hdirs, hcontent, hwrite⟩ := h.dirs
      have htell := tell_eq_iff.mpr ⟨h.steps _, .inr ⟨content, hcontent, h.hasNull_eq, hwrite⟩⟩
      have hread := FileTree.read_of_write hwrite
      exact printing_of_tell h.steps h.hasNull_eq hdirs htell (FileTree.isFile_of_read hread)
    · have hadds := FileTree.makeDirs_adds t cwd p.parent
      rw [h.dirs] at hadds
      obtain ⟨l, content, hwalk, hl⟩ := h.old
      have hfile := FileTree.isFile_eq_true_iff.mpr ⟨l, content, hwalk, hadds.file_iff.mpr hl⟩
      exact printing_of_tell h.steps h.hasNull_eq h.dirs
        (tell_eq_iff.mpr ⟨h.steps _, .inl ⟨h.written, rfl⟩⟩) hfile

/-- What goes wrong once the directories are there: something with the browser, or nothing was written
and something is wrong with the file that should be there. -/
theorem visited_fault_iff (html : Text) (options : PrintOptions) :
    (visit b html options cwd p t).fault.or
        (missing cwd p (visit b html options cwd p t).tree) = some f ↔
      (visit b html options cwd p t).fault = some f ∨
        (∀ step, b.failure? step = none) ∧ b.written = none ∧ missing cwd p t = some f := by
  rw [Option.or_eq_some_iff]
  refine or_congr_right ⟨?_, ?_⟩
  · rintro ⟨hvisit, hmissing⟩
    obtain ⟨hsteps, hfault⟩ := visit_eq_none_iff.mp hvisit
    rw [visit_tree (hsteps _) (hsteps _) (hsteps _)] at hmissing
    have htell : tell b cwd p t = ((tell b cwd p t).1, none) := Prod.ext rfl hfault
    rcases (tell_eq_iff.mp htell).2 with ⟨hwritten, htree⟩ | ⟨content, -, hname, hwrite⟩
    · rw [htree] at hmissing
      exact ⟨hsteps, hwritten, hmissing⟩
    · -- what was written is there to be found
      have hfile := FileTree.isFile_of_read (FileTree.read_of_write hwrite)
      rw [missing_eq_none_iff.mpr ⟨hname, hfile⟩] at hmissing
      cases hmissing
  · rintro ⟨hsteps, hwritten, hmissing⟩
    have htell : tell b cwd p t = (t, none) := tell_eq_iff.mpr ⟨hsteps _, .inl ⟨hwritten, rfl⟩⟩
    refine ⟨visit_eq_none_iff.mpr ⟨hsteps, by rw [htell]⟩, ?_⟩
    rw [visit_tree (hsteps _) (hsteps _) (hsteps _), htell]
    exact hmissing

/-- What goes wrong once the directories are there. -/
theorem printing_fault_of_ready {t₁ : FileTree} (hready : Ready cwd p t t₁) :
    ((visit b html options cwd p t₁).fault.or
        (missing cwd p (visit b html options cwd p t₁).tree) = some f) ↔
      (∃ cause, f = .export cause ∧ Reports b cwd p t cause) ∨ Escapes b cwd p t f := by
  rw [visited_fault_iff, visit_fault_iff]
  have hunique {u : FileTree} (h : Ready cwd p t u) : u = t₁ := by
    have hdirs := hready.dirs.symm.trans h.dirs
    exact (Prod.mk.inj hdirs).1.symm
  constructor
  · rintro ((⟨step, e, hbreaks, rfl⟩ | ⟨hsteps, hwrite⟩) | ⟨hsteps, hwritten, hmissing⟩)
    · unfold Fault.ofBrowser
      cases he : e.isExport with
      | true => exact .inl ⟨_, rfl, .browser hready hbreaks he⟩
      | false => exact .inr (.browser hready hbreaks he)
    · cases hwrite with
      | null hwritten hname => exact .inr (.name hready hsteps hwritten hname)
      | file hwritten hname hwrite =>
        exact .inl ⟨_, rfl, .file hready hsteps (.file hwritten hname hwrite)⟩
    · rcases missing_fault_iff.mp hmissing with ⟨rfl, hfile⟩ | ⟨hname, e, hask, rfl⟩
      · exact .inl ⟨_, rfl, .noFile hready hsteps hwritten hfile⟩
      · exact .inr (.ask hready hsteps hwritten hname hask)
  · rintro (⟨cause, rfl, h⟩ | h)
    · cases h with
      | dirs hparent hdirs => cases hready.dirs.symm.trans hdirs
      | browser h hbreaks he =>
        obtain rfl := hunique h
        exact .inl (.inl ⟨_, _, hbreaks, (if_pos he).symm⟩)
      | file h hsteps hwrite =>
        obtain rfl := hunique h
        exact .inl (.inr ⟨hsteps, hwrite⟩)
      | noFile h hsteps hwritten hfile =>
        obtain rfl := hunique h
        exact .inr ⟨hsteps, hwritten, missing_fault_iff.mpr (.inl ⟨rfl, hfile⟩)⟩
    · cases h with
      | parent hparent => cases hready.parent.symm.trans hparent
      | @browser t' step e h hbreaks he =>
        obtain rfl := hunique h
        refine .inl (.inl ⟨_, _, hbreaks, ?_⟩)
        unfold Fault.ofBrowser
        rw [he]
        rfl
      | name h hsteps hwritten hname =>
        obtain rfl := hunique h
        exact .inl (.inr ⟨hsteps, .null hwritten hname⟩)
      | ask h hsteps hwritten hname hask =>
        obtain rfl := hunique h
        exact .inr ⟨hsteps, hwritten, missing_fault_iff.mpr (.inr ⟨hname, _, hask, rfl⟩)⟩

/-- **What goes wrong**: a cause of an export error, or a fault that escapes. -/
theorem printing_fault_iff (html : Text) (options : PrintOptions) :
    (printing b html options cwd p t).fault = some f ↔
      (∃ cause, f = .export cause ∧ Reports b cwd p t cause) ∨ Escapes b cwd p t f := by
  rcases printing_cases b html options cwd p t with
    ⟨hparent, h⟩ | ⟨hparent, t₁, e, hdirs, h⟩ | ⟨hparent, t₁, hdirs, h⟩
  · have hunready {t' : FileTree} (hready : Ready cwd p t t') : False := by
      cases hparent.symm.trans hready.parent
    rw [h]
    constructor
    · rintro ⟨⟩
      exact .inr (.parent hparent)
    · rintro (⟨cause, rfl, hcause⟩ | hescapes)
      · cases hcause with
        | dirs hparent' hdirs => cases hparent.symm.trans hparent'
        | browser hready | file hready | noFile hready => exact (hunready hready).elim
      · cases hescapes with
        | parent => rfl
        | browser hready | name hready | ask hready => exact (hunready hready).elim
  · have hunready {t' : FileTree} (hready : Ready cwd p t t') : False := by
      cases hdirs.symm.trans hready.dirs
    rw [h]
    constructor
    · rintro ⟨⟩
      exact .inl ⟨_, rfl, .dirs hparent hdirs⟩
    · rintro (⟨cause, rfl, hcause⟩ | hescapes)
      · cases hcause with
        | dirs hparent' hdirs' =>
          cases hdirs.symm.trans hdirs'
          rfl
        | browser hready | file hready | noFile hready => exact (hunready hready).elim
      · cases hescapes with
        | parent hparent' => cases hparent.symm.trans hparent'
        | browser hready | name hready | ask hready => exact (hunready hready).elim
  · rw [h]
    exact printing_fault_of_ready ⟨hparent, hdirs⟩

/-! ## The answer -/

/-- What comes of printing to a path: the answer, and the world afterwards. -/
structure Outcome (b : Browser) (cwd : Location) (p : FilePath) (t : FileTree)
    (answer : Except Failure Text) (w : World) : Prop where
  /-- The confirmation is given when the file was written, or found from before. -/
  confirmed : ∀ m, answer = .ok m ↔
    m = "PDF saved to ".toList ++ p.toText ∧ (Prints b cwd p t w.tree ∨ FindsOld b cwd p t w.tree)
  /-- What the browser wrote stands at the path when printing is confirmed. -/
  stands : ∀ m content, answer = .ok m → b.written = some content →
    w.tree.read cwd p = .ok content
  /-- Every other answer is an export error for the path, or one of the faults that escape. -/
  failed : ∀ e, answer = .error e ↔
    (∃ cause, e = .export ⟨p, cause⟩ ∧ Reports b cwd p t cause) ∨
      ∃ f, e = f.toFailure p ∧ Escapes b cwd p t f
  /-- A browser is started when the directories are there, unless it does not start. -/
  started : w.visit.started = true ↔ (∃ t', Ready cwd p t t') ∧ b.failure? .start = none
  /-- A browser that was started is closed. -/
  closed : w.visit.closed = w.visit.started

section Answer

variable {r : Renderer} {output : FilePath} {w : World}

/-- Printing answers with what went wrong, or with the confirmation. -/
theorem perform_print (hp : output.expandUser r.homes = .ok p) :
    (print b r html options output).perform w =
      match (printing b html options r.cwd p w.tree).fault with
      | some f =>
        (.error (f.toFailure p),
          { w with
            tree := (printing b html options r.cwd p w.tree).tree
            visit := (printing b html options r.cwd p w.tree).visit })
      | none =>
        (.ok ("PDF saved to ".toList ++ p.toText),
          { w with
            tree := (printing b html options r.cwd p w.tree).tree
            visit := (printing b html options r.cwd p w.tree).visit
            log := w.log ++ [⟨.info, "PDF written to " ++ p.toText.toStr⟩] }) := by
  have htree : Action.tree.perform w = (.ok w.tree, w) := rfl
  unfold print
  rw [hp, Action.perform_bind]
  show (Action.tree >>= _).perform w = _
  rw [Action.perform_bind, htree]
  dsimp only
  cases (printing b html options r.cwd p w.tree).fault <;> rfl

/-- What comes of printing that goes wrong. -/
theorem outcome_of_fault (hfault : (printing b html options cwd p t).fault = some f)
    (hvisit : w.visit = (printing b html options cwd p t).visit) :
    Outcome b cwd p t (.error (f.toFailure p)) w := by
  have hfaults (f' : Fault) : f = f' ↔
      (∃ cause, f' = .export cause ∧ Reports b cwd p t cause) ∨ Escapes b cwd p t f' := by
    rw [← printing_fault_iff html options, hfault, Option.some.injEq]
  constructor
  case confirmed =>
    refine fun m => ⟨nofun, ?_⟩
    rintro ⟨-, h⟩
    obtain ⟨-, hdone⟩ := (printing_eq_none_iff html options).mpr h
    cases hfault.symm.trans hdone
  case stands => nofun
  case failed =>
    intro e
    constructor
    · rintro ⟨⟩
      rcases (hfaults f).mp rfl with ⟨cause, rfl, hcause⟩ | hescapes
      · exact .inl ⟨cause, rfl, hcause⟩
      · exact .inr ⟨f, rfl, hescapes⟩
    · rintro (⟨cause, rfl, hcause⟩ | ⟨f', rfl, hescapes⟩)
      · rw [(hfaults _).mpr (.inl ⟨cause, rfl, hcause⟩)]
        rfl
      · rw [(hfaults f').mpr (.inr hescapes)]
  case started =>
    rw [hvisit]
    exact printing_started_iff
  case closed =>
    rw [hvisit]
    exact printing_closed ..

/-- What comes of printing that goes well. -/
theorem outcome_of_done (hfault : (printing b html options cwd p t).fault = none)
    (htree : w.tree = (printing b html options cwd p t).tree)
    (hvisit : w.visit = (printing b html options cwd p t).visit) :
    Outcome b cwd p t (.ok ("PDF saved to ".toList ++ p.toText)) w := by
  have hways : Prints b cwd p t w.tree ∨ FindsOld b cwd p t w.tree :=
    (printing_eq_none_iff html options).mp ⟨htree.symm, hfault⟩
  have hfaults (f : Fault) :
      ¬((∃ cause, f = .export cause ∧ Reports b cwd p t cause) ∨ Escapes b cwd p t f) := by
    rw [← printing_fault_iff html options, hfault]
    nofun
  constructor
  case confirmed =>
    intro m
    constructor
    · rintro ⟨⟩
      exact ⟨rfl, hways⟩
    · rintro ⟨rfl, -⟩
      rfl
  case stands =>
    intro m content _ hcontent
    rcases hways with hprints | hold
    · obtain ⟨_, hcontent', hread⟩ := hprints.read
      cases hcontent.symm.trans hcontent'
      exact hread
    · cases hcontent.symm.trans hold.written
  case failed =>
    refine fun e => ⟨nofun, ?_⟩
    rintro (⟨cause, rfl, hcause⟩ | ⟨f, rfl, hescapes⟩)
    · exact absurd (.inl ⟨cause, rfl, hcause⟩) (hfaults _)
    · exact absurd (.inr hescapes) (hfaults f)
  case started =>
    rw [hvisit]
    exact printing_started_iff
  case closed =>
    rw [hvisit]
    exact printing_closed ..

/-- **What comes of printing**, whatever the page, the path, the files and the browser.  When no home
directory is known for the path nothing is done. -/
theorem print_outcome (b : Browser) (r : Renderer) (html : Text) (options : PrintOptions)
    (output : FilePath) (w : World) :
    match output.expandUser r.homes with
    | .error e => (print b r html options output).perform w = (.error (.path e), w)
    | .ok p =>
      Outcome b r.cwd p w.tree ((print b r html options output).perform w).1
        ((print b r html options output).perform w).2 := by
  cases hp : output.expandUser r.homes with
  | error e =>
    unfold print
    rw [hp]
    rfl
  | ok p =>
    dsimp only
    rw [perform_print hp]
    cases hfault : (printing b html options r.cwd p w.tree).fault with
    | some f => exact outcome_of_fault hfault rfl
    | none => exact outcome_of_done hfault rfl rfl

/-- A file from before is taken for the page. -/
theorem print_outcome_old :
    ¬∀ (b : Browser) (r : Renderer) (html : Text) (options : PrintOptions) (output p : FilePath)
      (w : World) (m : Text), output.expandUser r.homes = .ok p →
        ((print b r html options output).perform w).1 = .ok m →
          Prints b r.cwd p w.tree ((print b r html options output).perform w).2.tree := by
  intro hclaim
  let out : FilePath := .ofText "out.pdf".toList
  let r : Renderer := ⟨[], [], .ofText ['.'], [], []⟩
  let w : World := .ofTree ⟨[(["out.pdf".toList], .file [])]⟩
  have hp : out.expandUser r.homes = .ok out := by decide
  have hdone : (printing .printsNothing [] .document r.cwd out w.tree).fault = none := by
    decide
  have hprints := hclaim .printsNothing r [] .document out out w _ hp
    (by rw [perform_print hp, hdone])
  obtain ⟨content, hcontent, -⟩ := hprints.written
  cases hcontent

end Answer

end Literate.Pdf

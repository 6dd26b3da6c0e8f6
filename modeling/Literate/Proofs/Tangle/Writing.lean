import Mathlib
import Literate.Proofs.Files.FileTree
import Literate.Proofs.Macro.Source
import Literate.Tangle

/-!
# Writing the groups

When its turn comes a group is rejected, or cannot be expanded, or cannot be written, or is written.
Only the last two change the tree: directories are made on the way to the file, and the file is
written where no directory stands.  Groups go to different locations and a file never becomes
anything else, so what a turn wrote is there in the end.

* `Tangle.writeGroup_turn`: what can become of a group.
* `Tangle.Changed`: a tree that differs only where the statuses account for it.
* `Tangle.writeGroups_changed`: all turns, one after the other.
* `Tangle.writeGroups_outcomes`: what became of every target in the end.
* `Tangle.writeGroups_written`: the files of the targets that succeed.
-/

namespace Literate

open Text

/-! ## Destinations -/

theorem FilePath.notMem_follow {l : Location} (hl : parentPart ∉ l) (ps : List Text) :
    parentPart ∉ FilePath.follow l ps := by
  induction ps generalizing l with
  | nil => exact hl
  | cons p ps ih =>
    rw [follow]
    split_ifs with hp
    · exact ih fun h => hl (List.mem_of_mem_dropLast h)
    · refine ih ?_
      rw [List.mem_append, List.mem_singleton, not_or]
      exact ⟨hl, Ne.symm hp⟩

namespace Tangle

variable {o : Outline} {root l k : Location} {target u : Text}

theorem destination_eq_location_iff : destination root target = .location l ↔
    (FilePath.ofText target).isAbsolute = false ∧ (FilePath.ofText target).hasNull = false ∧
      (FilePath.ofLocation root).hasNull = false ∧
      FilePath.follow root (FilePath.ofText target).parts = l ∧ root <+: l := by
  unfold destination
  dsimp only
  split_ifs with habs hnull hwithin
  · simp [habs]
  · rw [Bool.or_eq_true] at hnull
    rcases hnull with h | h
    · simp [h]
    · simp [h]
  · rw [Bool.or_eq_true, not_or, Bool.not_eq_true, Bool.not_eq_true] at hnull
    rw [Location.isWithin, List.isPrefixOf_iff_prefix] at hwithin
    simp only [Destination.location.injEq, habs, hnull, true_and]
    constructor
    · rintro rfl
      exact ⟨rfl, hwithin⟩
    · exact fun h => h.1
  · rw [Location.isWithin, List.isPrefixOf_iff_prefix] at hwithin
    simp only [false_iff, not_and]
    rintro - - - rfl
    exact hwithin

theorem eq_of_destination_eq_rejected {reason : TargetError}
    (h : destination root target = .rejected u reason) : u = target := by
  unfold destination at h
  dsimp only at h
  split_ifs at h
  · cases h
    rfl
  · cases h
    rfl
  · cases h
    rfl

theorem location?_eq_some_iff {d : Destination} : d.location? = some l ↔ d = .location l := by
  cases d <;> simp [Destination.location?]

/-- A location below a directory that has no double dots has none. -/
theorem notMem_of_destination (hroot : parentPart ∉ root)
    (h : destination root target = .location l) : parentPart ∉ l := by
  obtain ⟨-, -, -, rfl, -⟩ := destination_eq_location_iff.mp h
  exact FilePath.notMem_follow hroot _

/-! ## The text of a file -/

theorem fileText_eq_ok_inv {bs : List Block} {memo : Memo} {content : Text}
    (h : ((fileText o bs).run.run memo).1 = .ok content) :
    ∃ texts, ((bs.mapM (Expander.block o)).run.run memo).1 = .ok texts ∧
      content = join ['\n'] texts ++ ['\n'] := by
  rw [fileText, Expander.run_bind] at h
  cases hrun : (bs.mapM (Expander.block o)).run.run memo with
  | mk res memo' =>
    rw [hrun] at h
    cases res with
    | error e => cases h
    | ok texts => exact ⟨texts, rfl, (Except.ok.inj h).symm⟩

theorem fileText_sound {bs : List Block} {memo : Memo} (hmemo : Expander.Sound o memo) :
    Expander.Sound o ((fileText o bs).run.run memo).2 := by
  have hmeets : Expander.Meets o (fileText o bs) (fun _ => True) fun _ => True :=
    Expander.Meets.bind (Expander.blocks_give bs) fun _ _ => Expander.Meets.pure trivial
  exact (hmeets memo hmemo).1

/-! ## One turn -/

/-- What can become of a group when its turn comes. -/
inductive Turn (o : Outline) (g : TangleGroup) (memo : Memo) (tree : FileTree) :
    Memo → FileTree → Option TangleError → Prop
  /-- Its target leads nowhere. -/
  | rejected {u reason} (hg : g.destination = .rejected u reason) :
    Turn o g memo tree memo tree (some (.target reason))
  /-- A reference in it cannot be expanded. -/
  | stuck {l e memo'} (hg : g.destination = .location l)
    (hrun : (fileText o g.blocks).run.run memo = (.error e, memo')) :
    Turn o g memo tree memo' tree (some (.expansion e))
  /-- Its file cannot be written; directories may have been made. -/
  | failed {l content memo' tree' e} (hg : g.destination = .location l)
    (hrun : (fileText o g.blocks).run.run memo = (.ok content, memo'))
    (hgrows : FileTree.Grows l.dropLast tree tree') :
    Turn o g memo tree memo' tree' (some (.file e))
  /-- Its file is written, where no directory stands. -/
  | written {l content memo' tree'} (hg : g.destination = .location l)
    (hrun : (fileText o g.blocks).run.run memo = (.ok content, memo'))
    (hgrows : FileTree.Grows l.dropLast tree tree') (hl : tree'.node? l ≠ some .directory) :
    Turn o g memo tree memo' (tree'.set l (.file (Utf8.encode content))) none

/-- **One turn.**  Where destinations have no double dots, each turn is one of the four. -/
theorem writeGroup_turn {g : TangleGroup} (hg : ∀ l, g.destination = .location l → parentPart ∉ l)
    (memo : Memo) (tree : FileTree) :
    Turn o g memo tree (writeGroup o memo tree g).1.1 (writeGroup o memo tree g).1.2
      (writeGroup o memo tree g).2 := by
  rw [writeGroup]
  cases hd : g.destination with
  | rejected u reason => exact .rejected hd
  | location l =>
    dsimp only
    cases hrun : (fileText o g.blocks).run.run memo with
    | mk res memo' =>
      cases res with
      | error e => exact .stuck hd hrun
      | ok content =>
        dsimp only
        obtain ⟨tree', hgrows, ⟨e, heq⟩ | ⟨hl, heq⟩⟩ :=
          FileTree.writeBelow_cases (hg l hd) tree (Utf8.encode content)
        · rw [heq]
          exact .failed hd hrun hgrows
        · rw [heq]
          exact .written hd hrun hgrows hl

/-! ## What the statuses account for -/

end Tangle

namespace TangleStatus

/-- A file was written at the location. -/
def Writes (s : TangleStatus) (k : Location) : Prop := s.ok = true ∧ s.location? = some k

/-- The location leads to a file that was written or that could not be written, though its target
was accepted and its text was there. -/
def LeadsThrough (s : TangleStatus) (k : Location) : Prop :=
  (s.ok = true ∨ ∃ e, s.error? = some (.file e)) ∧ ∃ l, s.location? = some l ∧ k <+: l ∧ k ≠ l

end TangleStatus

namespace Tangle

variable {o : Outline} {root l k : Location} {g : TangleGroup} {gs : List TangleGroup}
  {memo memo' : Memo} {tree tree' tree'' : FileTree} {files more : List TangleStatus}

/-- Two trees that differ only in the files that were written and in new directories on the way to
files. -/
def Changed (files : List TangleStatus) (tree tree' : FileTree) : Prop :=
  ∀ k, tree'.node? k = tree.node? k ∨
    (∃ s ∈ files, s.Writes k) ∧ tree.node? k ≠ some .directory ∧
      (∃ content, tree'.node? k = some (.file content)) ∨
    (∃ s ∈ files, s.LeadsThrough k) ∧ tree.node? k = none ∧ tree'.node? k = some .directory

theorem Changed.refl (tree : FileTree) : Changed [] tree tree := fun _ => .inl rfl

/-- What is there after the first turns and is no file that the later ones write stays. -/
theorem Changed.node?_eq (h : Changed files tree tree') (hk : (tree.node? k).isSome)
    (hfiles : ∀ s ∈ files, ¬ s.Writes k) : tree'.node? k = tree.node? k := by
  rcases h k with heq | ⟨⟨s, hs, hwrites⟩, -⟩ | ⟨-, hnone, -⟩
  · exact heq
  · exact absurd hwrites (hfiles s hs)
  · simp [hnone] at hk

/-- A file was there before or was written. -/
theorem Changed.file_inv (h : Changed files tree tree') {content : Bytes}
    (hk : tree'.node? k = some (.file content)) :
    tree.node? k = some (.file content) ∨ ∃ s ∈ files, s.Writes k := by
  rcases h k with heq | ⟨hwrites, -⟩ | ⟨-, -, hmade⟩
  · exact .inl (heq ▸ hk)
  · exact .inr hwrites
  · rw [hmade] at hk
    cases hk

/-- Turns one after the other. -/
theorem Changed.trans (h : Changed files tree tree') (h' : Changed more tree' tree'') :
    Changed (files ++ more) tree tree'' := by
  have hleft : ∀ {P : TangleStatus → Prop}, (∃ s ∈ files, P s) → ∃ s ∈ files ++ more, P s :=
    fun ⟨s, hs, hp⟩ => ⟨s, List.mem_append_left _ hs, hp⟩
  have hright : ∀ {P : TangleStatus → Prop}, (∃ s ∈ more, P s) → ∃ s ∈ files ++ more, P s :=
    fun ⟨s, hs, hp⟩ => ⟨s, List.mem_append_right _ hs, hp⟩
  intro k
  rcases h' k with heq' | ⟨hwrites', hdir', hfile'⟩ | ⟨hleads', hnone', hmade'⟩
  · rw [heq']
    rcases h k with heq | ⟨hwrites, hrest⟩ | ⟨hleads, hrest⟩
    · exact .inl heq
    · exact .inr (.inl ⟨hleft hwrites, hrest⟩)
    · exact .inr (.inr ⟨hleft hleads, hrest⟩)
  · refine .inr (.inl ⟨hright hwrites', ?_, hfile'⟩)
    -- a directory would still be one
    rcases h k with heq | ⟨-, hdir, -⟩ | ⟨-, hnone, -⟩
    · rwa [← heq]
    · exact hdir
    · simp [hnone]
  · refine .inr (.inr ⟨hright hleads', ?_, hmade'⟩)
    rcases h k with heq | ⟨-, -, content, hfile⟩ | ⟨-, hnone, -⟩
    · rwa [← heq]
    · rw [hnone'] at hfile
      cases hfile
    · exact hnone

/-- The status of a group. -/
def statusOf (g : TangleGroup) (error? : Option TangleError) : TangleStatus :=
  ⟨g.target, g.destination.location?, g.blocks.map Block.name, error?⟩

/-- Directories on the way to a file of a status. -/
theorem Changed.of_grows {s : TangleStatus} (hs : s.ok = true ∨ ∃ e, s.error? = some (.file e))
    (hl : s.location? = some l) (h : FileTree.Grows l.dropLast tree tree') :
    Changed [s] tree tree' := by
  intro k
  rcases h k with heq | ⟨hnone, hdir, hk⟩
  · exact .inl heq
  · have hne : k ≠ l := by
      rintro rfl
      have hlen := hk.length_le
      rw [List.length_dropLast] at hlen
      have hnil : k = [] := List.length_eq_zero_iff.mp (by omega)
      rw [hnil, FileTree.node?_nil] at hnone
      cases hnone
    exact .inr (.inr ⟨⟨s, by simp, hs, l, hl, hk.trans (List.dropLast_prefix l), hne⟩, hnone, hdir⟩)

/-- A turn changes what its status accounts for. -/
theorem Turn.changed {error? : Option TangleError} (h : Turn o g memo tree memo' tree' error?) :
    Changed [statusOf g error?] tree tree' := by
  cases h with
  | rejected hg => exact fun _ => .inl rfl
  | stuck hg hrun => exact fun _ => .inl rfl
  | failed hg hrun hgrows => exact .of_grows (.inr ⟨_, rfl⟩) (by rw [statusOf, hg]; rfl) hgrows
  | @written l content memo' tree₁ hg hrun hgrows hl =>
    have hlocation : (statusOf g none).location? = some l := by
      rw [statusOf, hg]
      rfl
    have hmade : Changed [statusOf g none] tree tree₁ := .of_grows (.inl rfl) hlocation hgrows
    intro k
    by_cases hk : k = l
    · subst hk
      refine .inr (.inl ⟨⟨_, by simp, rfl, hlocation⟩, ?_, _,
        FileTree.node?_set_self (FileTree.ne_nil_of_node?_ne hl)⟩)
      intro hdir
      rw [hgrows.node?_of_isSome (by rw [hdir]; rfl)] at hl
      exact hl hdir
    · rw [FileTree.node?_set_of_ne hk]
      exact hmade k

/-- What expanding keeps of the memo is kept by a turn. -/
theorem Turn.keeps {error? : Option TangleError} (h : Turn o g memo tree memo' tree' error?)
    {I : Memo → Prop} (hI : I ((fileText o g.blocks).run.run memo).2) (hmemo : I memo) :
    I memo' := by
  cases h with
  | rejected => exact hmemo
  | stuck _ hrun | failed _ hrun | written _ hrun => rwa [hrun] at hI

/-! ## All turns -/

theorem exists_of_forall₂ {α β : Type} {R : α → β → Prop} {as : List α} {bs : List β}
    (h : List.Forall₂ R as bs) {a : α} (ha : a ∈ as) : ∃ b ∈ bs, R a b := by
  induction h with
  | nil => cases ha
  | cons hab _ ih =>
    rcases List.mem_cons.mp ha with rfl | ha
    · exact ⟨_, by simp, hab⟩
    · obtain ⟨b, hb, hr⟩ := ih ha
      exact ⟨b, by simp [hb], hr⟩

theorem writeGroups_cons (o : Outline) (memo : Memo) (tree : FileTree) (g : TangleGroup)
    (gs : List TangleGroup) :
    writeGroups o memo tree (g :: gs) =
      ((writeGroups o (writeGroup o memo tree g).1.1 (writeGroup o memo tree g).1.2 gs).1,
        statusOf g (writeGroup o memo tree g).2 ::
          (writeGroups o (writeGroup o memo tree g).1.1 (writeGroup o memo tree g).1.2 gs).2) := rfl

/-- There is a status for each group, in order. -/
theorem writeGroups_statuses (memo : Memo) (tree : FileTree) (gs : List TangleGroup) :
    List.Forall₂ (fun s g => ∃ error?, s = statusOf g error?)
      (writeGroups o memo tree gs).2 gs := by
  induction gs generalizing memo tree with
  | nil => exact .nil
  | cons g gs ih =>
    rw [writeGroups_cons]
    exact .cons ⟨_, rfl⟩ (ih _ _)

/-- **All turns.**  The tree differs only where the statuses account for it. -/
theorem writeGroups_changed
    (hgs : ∀ g ∈ gs, ∀ l, g.destination = .location l → parentPart ∉ l) (memo : Memo)
    (tree : FileTree) :
    Changed (writeGroups o memo tree gs).2 tree (writeGroups o memo tree gs).1 := by
  induction gs generalizing memo tree with
  | nil => exact .refl tree
  | cons g gs ih =>
    rw [writeGroups_cons]
    have hturn := writeGroup_turn (o := o) (hgs g (by simp)) memo tree
    exact hturn.changed.trans (ih (fun g' hg' => hgs g' (by simp [hg'])) _ _)

/-- What became of a target whose text, or the error in its place, is `res`. -/
structure Outcome (tree : FileTree) (s : TangleStatus) (res : Except ExpansionError Text) :
    Prop where
  stuck : ∀ e, s.error? = some (.expansion e) ↔ (∃ l, s.location? = some l) ∧ res = .error e
  written : s.ok = true → ∃ l content, s.location? = some l ∧ res = .ok content ∧
    tree.node? l = some (.file (Utf8.encode content))

theorem Turn.outcome {error? : Option TangleError} (h : Turn o g memo tree memo' tree' error?) :
    Outcome tree' (statusOf g error?) ((fileText o g.blocks).run.run memo).1 := by
  cases h with
  | rejected hg => exact ⟨by simp [statusOf, hg, Destination.location?], nofun⟩
  | stuck hg hrun => exact ⟨by simp [statusOf, hg, hrun, Destination.location?], nofun⟩
  | failed hg hrun => exact ⟨by simp [statusOf, hrun], nofun⟩
  | @written l content memo' tree₁ hg hrun hgrows hl =>
    refine ⟨by simp [statusOf, hrun], fun _ => ⟨l, content, ?_, by rw [hrun], ?_⟩⟩
    · rw [statusOf, hg]
      rfl
    · exact FileTree.node?_set_self (FileTree.ne_nil_of_node?_ne hl)

/-- Groups that come later write elsewhere. -/
theorem not_writes_of_notMem (hl : Destination.location l ∉ gs.map TangleGroup.destination)
    (memo : Memo) (tree : FileTree) : ∀ s ∈ (writeGroups o memo tree gs).2, ¬ s.Writes l := by
  intro s hs hwrites
  obtain ⟨g, hg, error?, rfl⟩ := exists_of_forall₂ (writeGroups_statuses memo tree gs) hs
  exact hl (List.mem_map.mpr ⟨g, hg, location?_eq_some_iff.mp hwrites.2⟩)

/-- **What became of every target** in the end; `I` is what expanding the blocks of a file keeps of
the memo. -/
theorem writeGroups_outcomes {I : Memo → Prop}
    (hI : ∀ bs memo, I memo → I ((fileText o bs).run.run memo).2)
    (hnodup : (gs.map TangleGroup.destination).Nodup)
    (hgs : ∀ g ∈ gs, ∀ l, g.destination = .location l → parentPart ∉ l) (hmemo : I memo)
    (tree : FileTree) :
    List.Forall₂ (fun s g => ∃ memo₁, I memo₁ ∧
        Outcome (writeGroups o memo tree gs).1 s ((fileText o g.blocks).run.run memo₁).1)
      (writeGroups o memo tree gs).2 gs := by
  induction gs generalizing memo tree with
  | nil => exact .nil
  | cons g gs ih =>
    rw [List.map_cons, List.nodup_cons] at hnodup
    have hgs' : ∀ g' ∈ gs, ∀ l, g'.destination = .location l → parentPart ∉ l :=
      fun g' hg' => hgs g' (by simp [hg'])
    have hturn := writeGroup_turn (o := o) (hgs g (by simp)) memo tree
    rw [writeGroups_cons]
    refine .cons ⟨memo, hmemo, hturn.outcome.stuck, fun hok => ?_⟩
      (ih hnodup.2 hgs' (hturn.keeps (hI _ _ hmemo) hmemo) _)
    obtain ⟨l, content, hl, hres, hfile⟩ := hturn.outcome.written hok
    refine ⟨l, content, hl, hres, ?_⟩
    -- no later turn writes this file again
    rw [← hfile]
    refine (writeGroups_changed hgs' _ _).node?_eq (by rw [hfile]; rfl) ?_
    exact not_writes_of_notMem (location?_eq_some_iff.mp hl ▸ hnodup.1) _ _

/-- What an expander that knows only what names stand for gives for the blocks of a file is in the
file: the texts, with newlines between them and one at the end. -/
def HoldsTexts (o : Outline) (tree : FileTree) (l : Location) (bs : List Block) : Prop :=
  ∃ memo texts, Expander.Sound o memo ∧ ((bs.mapM (Expander.block o)).run.run memo).1 = .ok texts ∧
    List.Forall₂ o.HasSource bs texts ∧
    tree.node? l = some (.file (Utf8.encode (join ['\n'] texts ++ ['\n'])))

/-- **The files that were written** hold the texts of their blocks in the end. -/
theorem writeGroups_written (hnodup : (gs.map TangleGroup.destination).Nodup)
    (hgs : ∀ g ∈ gs, ∀ l, g.destination = .location l → parentPart ∉ l)
    (hmemo : Expander.Sound o memo) (tree : FileTree) :
    List.Forall₂ (fun s g => s.ok = true →
        ∃ l, s.location? = some l ∧ HoldsTexts o (writeGroups o memo tree gs).1 l g.blocks)
      (writeGroups o memo tree gs).2 gs := by
  refine (writeGroups_outcomes (fun _ _ => fileText_sound) hnodup hgs hmemo tree).imp ?_
  rintro s g ⟨memo₁, hsound, houtcome⟩ hok
  obtain ⟨l, content, hl, hres, hfile⟩ := houtcome.written hok
  obtain ⟨texts, hrun, rfl⟩ := fileText_eq_ok_inv hres
  have hsources := (Expander.blocks_give g.blocks memo₁ hsound).2.1 texts hrun
  exact ⟨l, hl, memo₁, texts, hsound, hrun, hsources, hfile⟩

end Tangle

end Literate

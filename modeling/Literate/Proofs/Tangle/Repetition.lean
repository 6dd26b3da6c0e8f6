import Mathlib
import Literate.Proofs.Files.Standing
import Literate.Proofs.Tangle.Accounting

/-!
# Tangling a second time

Tangling leaves a tree in which every target is settled: its file stands there with the text that a
second tangling would write, or its location can take no file.  A later turn of the same tangling
does not change that, because it writes to another location and leaves directories directories and
files files.  So the second tangling changes nothing, and each target succeeds as it did before.
Only the message of a failed writing may be another one, since the directories that the first one
made on its way are there now.

* `Tangle.writeGroup_again`: the turn of a group on the tree left in the end.
* `Tangle.writeGroups_again`: all turns.
* `tangle_again`: tangling twice is tangling once.
-/

namespace Literate

open Text

/-- The statuses of one group in two runs: they are equal, or neither run could write the file. -/
def TangleStatus.Agrees (s s' : TangleStatus) : Prop :=
  s' = s ∨ ∃ e e', s.error? = some (.file e) ∧ s' = { s with error? := some (.file e') }

theorem TangleStatus.Agrees.ok_eq {s s' : TangleStatus} (h : s.Agrees s') : s'.ok = s.ok := by
  rcases h with rfl | ⟨e, e', he, rfl⟩
  · rfl
  · rw [ok, ok, he]
    rfl

namespace Tangle

variable {o : Outline} {g : TangleGroup} {gs : List TangleGroup} {memo memo' : Memo}
  {tree tree' u : FileTree} {files : List TangleStatus} {error? : Option TangleError}

/-- Where a tree differs only as statuses account for it, directories stay directories and files
stay files. -/
theorem Changed.keepsKinds (h : Changed files tree tree') : FileTree.KeepsKinds tree tree' := by
  intro k
  rcases h k with heq | ⟨-, hdir, hfile⟩ | ⟨-, hnone, -⟩
  · rw [heq]
    exact ⟨fun hk => hk, fun c hk => ⟨c, hk⟩⟩
  · exact ⟨fun hk => absurd hk hdir, fun _ _ => hfile⟩
  · rw [hnone]
    exact ⟨nofun, nofun⟩

/-- **One turn again.**  On a tree that keeps what the turn of a group left there, its turn changes
nothing and comes to the same end. -/
theorem writeGroup_again (hg : ∀ l, g.destination = .location l → parentPart ∉ l)
    (hturn : writeGroup o memo tree g = ((memo', tree'), error?))
    (hkeeps : FileTree.KeepsKinds tree' u)
    (hkept : ∀ l, g.destination = .location l → error? = none → u.node? l = tree'.node? l) :
    ∃ error?', writeGroup o memo u g = ((memo', u), error?') ∧
      (statusOf g error?).Agrees (statusOf g error?') := by
  unfold writeGroup at hturn ⊢
  cases hd : g.destination with
  | rejected target reason =>
    rw [hd] at hturn
    cases hturn
    exact ⟨_, rfl, .inl rfl⟩
  | location l =>
    have hl := hg l hd
    rw [hd] at hturn
    dsimp only at hturn ⊢
    cases hrun : (fileText o g.blocks).run.run memo with
    | mk res memo₁ =>
      rw [hrun] at hturn
      cases res with
      | error e =>
        cases hturn
        exact ⟨_, rfl, .inl rfl⟩
      | ok content =>
        dsimp only at hturn ⊢
        rcases FileTree.writeBelow_settles hl tree (Utf8.encode content) with
          ⟨t', hwrite, hfile⟩ | ⟨t', e, hwrite, hblocked⟩
        · rw [hwrite] at hturn
          cases hturn
          -- the file still stands, with the content it was given
          have hnode := ((FileTree.at?_eq_ok_iff hl).mp hfile).2
          rw [← hkept l hd rfl] at hnode
          rw [FileTree.writeBelow_of_file hl (hkeeps.at?_file hl hfile hnode)]
          exact ⟨none, rfl, .inl rfl⟩
        · rw [hwrite] at hturn
          cases hturn
          obtain ⟨e', he'⟩ := FileTree.writeBelow_of_blocked hl (hkeeps.blocked hl hblocked)
            (Utf8.encode content)
          rw [he']
          exact ⟨some (.file e'), rfl, .inr ⟨e, e', rfl, rfl⟩⟩

/-- A file that a turn wrote is written by no later one. -/
theorem kept_of_writeGroup (hg : ∀ l, g.destination = .location l → parentPart ∉ l)
    (hgs : ∀ g' ∈ gs, ∀ l, g'.destination = .location l → parentPart ∉ l)
    (hnot : g.destination ∉ gs.map TangleGroup.destination)
    (hturn : writeGroup o memo tree g = ((memo', tree'), none)) (l : Location)
    (hl : g.destination = .location l) :
    (writeGroups o memo' tree' gs).1.node? l = tree'.node? l := by
  have houtcome := (writeGroup_turn (o := o) hg memo tree).outcome
  rw [hturn] at houtcome
  obtain ⟨k, content, hk, -, hfile⟩ := houtcome.written rfl
  obtain rfl : l = k := by
    have hlocation : g.destination.location? = some k := hk
    rw [hl] at hlocation
    exact Option.some.inj hlocation
  apply (writeGroups_changed (o := o) hgs memo' tree').node?_eq
  · rw [hfile]
    rfl
  · exact not_writes_of_notMem (hl ▸ hnot) memo' tree'

/-- **All turns again**, on the tree that they left in the end. -/
theorem writeGroups_again (hnodup : (gs.map TangleGroup.destination).Nodup)
    (hgs : ∀ g ∈ gs, ∀ l, g.destination = .location l → parentPart ∉ l) (memo : Memo)
    (tree : FileTree) :
    (writeGroups o memo (writeGroups o memo tree gs).1 gs).1 = (writeGroups o memo tree gs).1 ∧
      List.Forall₂ TangleStatus.Agrees (writeGroups o memo tree gs).2
        (writeGroups o memo (writeGroups o memo tree gs).1 gs).2 := by
  induction gs generalizing memo tree with
  | nil => exact ⟨rfl, .nil⟩
  | cons g gs ih =>
    rw [List.map_cons, List.nodup_cons] at hnodup
    have hgs' : ∀ g' ∈ gs, ∀ l, g'.destination = .location l → parentPart ∉ l :=
      fun g' hg' => hgs g' (by simp [hg'])
    cases hturn : writeGroup o memo tree g with
    | mk after error? =>
      obtain ⟨memo', tree'⟩ := after
      have hfirst := writeGroups_cons o memo tree g gs
      rw [hturn] at hfirst
      dsimp only at hfirst
      obtain ⟨hsame, hagree⟩ := ih hnodup.2 hgs' memo' tree'
      have hchanged := writeGroups_changed (o := o) hgs' memo' tree'
      rw [hfirst]
      dsimp only
      generalize hlast : (writeGroups o memo' tree' gs).1 = u at hsame hagree hchanged ⊢
      have hkept : ∀ l, g.destination = .location l → error? = none →
          u.node? l = tree'.node? l := by
        rintro l hl rfl
        rw [← hlast]
        exact kept_of_writeGroup (hgs g (by simp)) hgs' hnodup.1 hturn l hl
      obtain ⟨error?', hagain, hagrees⟩ :=
        writeGroup_again (hgs g (by simp)) hturn hchanged.keepsKinds hkept
      have hsecond := writeGroups_cons o memo u g gs
      rw [hagain] at hsecond
      rw [hsecond]
      exact ⟨hsame, .cons hagrees hagree⟩

end Tangle

/-- **Tangling twice is tangling once.**  Tangling again into the tree that the first tangling left
changes nothing, and each target succeeds as it did before: the statuses are the same, but for why a
file could not be written. -/
theorem tangle_again (o : Outline) {root : Location} (hroot : parentPart ∉ root)
    (tree : FileTree) :
    let first := Tangle.run o root tree
    let second := Tangle.run o root first.1
    second.1 = first.1 ∧
      List.Forall₂ (fun s s' => s'.ok = s.ok ∧ s.Agrees s') first.2.files second.2.files := by
  intro first second
  obtain ⟨hsame, hagree⟩ := Tangle.writeGroups_again (o := o) (Tangle.groups_gathered root o).nodup
    (Tangle.notMem_of_mem_groups hroot) [] tree
  exact ⟨hsame, hagree.imp fun s s' h => ⟨h.ok_eq, h⟩⟩

/-- A file where another target needs a directory, the directory itself as a target, and a name too
long below a directory that the first tangling makes. -/
theorem tangle_again_collisions :
    let long : Text := List.replicate 256 'x'
    let block (n : ℕ) (name : Char) (target : Text) : Block :=
      ⟨n, n + 2, "```".toList, ⟨"sh".toList, some [name], some target, [], [], false, false⟩,
        [[name]]⟩
    let o : Outline :=
      ⟨12, [.block (block 1 'a' "new/a".toList), .block (block 4 'b' "new/a/b".toList),
        .block (block 7 'c' ".".toList),
        .block (block 10 'd' ("deep/".toList ++ long ++ "/e/d".toList))], [⟨1, [], .implicit⟩]⟩
    let root : Location := ["out".toList]
    let first := Tangle.run o root .empty
    let second := Tangle.run o root first.1
    parentPart ∉ root ∧ first.2.files.map (·.ok) = [true, false, false, false] ∧
      first.1.node? (root ++ ["deep".toList]) = some .directory ∧
      first.2.files.map (·.error?) ≠ second.2.files.map (·.error?) ∧ second.1 = first.1 ∧
      List.Forall₂ (fun s s' => s'.ok = s.ok ∧ s.Agrees s') first.2.files second.2.files := by
  intro long block o root first second
  have hroot : parentPart ∉ root := by decide
  refine ⟨hroot, by decide +kernel, by decide +kernel, by decide +kernel, ?_⟩
  with_reducible exact tangle_again o hroot .empty

end Literate

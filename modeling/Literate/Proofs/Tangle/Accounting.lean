import Mathlib
import Literate.Proofs.Tangle.Groups
import Literate.Proofs.Tangle.Writing

/-!
# What tangling accounts for

The statuses of a tangling account for every exported block and for everything that is different in
the tree afterwards.  Files are written below the output directory; the directory itself is a
location like the others, and a target that names it is written there unless a directory stands
there already.

* `Tangle.Names`: the location a target names.
* `Tangle.Accounts`: what the statuses have to do with the document and with the trees.
* `tangle_accounts`: tangling accounts for every block and touches nothing else.
* `tangle_confined`: what is written lies in the output directory, or is the directory itself when a
  target names it.
* `tangle_confined_directory`: a directory that becomes a file.
-/

namespace Literate

open Text

/-- The block is written to a target: it has one, and it is not left out of the document. -/
def Block.Exports (b : Block) (target : Text) : Prop :=
  b.info.target = some target ∧ target ≠ [] ∧ b.info.hiddenInDoc = false

namespace Tangle

variable {o : Outline} {root l : Location} {b c : Block} {target target' : Text}
  {g : TangleGroup} {memo : Memo} {tree : FileTree}

/-- A relative target names the location it leads to from the directory, if that is the directory
itself or lies below it. -/
def Names (root : Location) (target : Text) (l : Location) : Prop :=
  (FilePath.ofText target).isAbsolute = false ∧ (FilePath.ofText target).hasNull = false ∧
    (FilePath.ofLocation root).hasNull = false ∧ (FilePath.ofText target).resolve root = l ∧
    root <+: l

theorem names_iff : Names root target l ↔ destination root target = .location l := by
  rw [destination_eq_location_iff, Names, FilePath.resolve]
  constructor
  · rintro ⟨habs, h⟩
    rw [habs] at h
    exact ⟨habs, h⟩
  · rintro ⟨habs, h⟩
    rw [habs]
    exact ⟨rfl, h⟩

/-- Targets go to one destination when they name one location, or are one rejected text. -/
theorem destination_eq_iff : destination root target = destination root target' ↔
    (∃ l, Names root target l ∧ Names root target' l) ∨
      target = target' ∧ ¬ ∃ l, Names root target l := by
  simp only [names_iff]
  constructor
  · intro h
    cases hd : destination root target with
    | location l => exact .inl ⟨l, rfl, by rw [← h, hd]⟩
    | rejected u reason =>
      refine .inr ⟨?_, by simp⟩
      rw [← eq_of_destination_eq_rejected hd]
      exact eq_of_destination_eq_rejected (h ▸ hd)
  · rintro (⟨l, h, h'⟩ | ⟨rfl, -⟩)
    · rw [h, h']
    · rfl

theorem exports_iff : b.Exports target ↔ exportOf? b = some target := exportOf?_eq_some_iff.symm

/-- The tree after the first `n` turns. -/
def treeAfter (o : Outline) (root : Location) (tree : FileTree) (n : ℕ) : FileTree :=
  (writeGroups o [] tree ((groups root o).take n)).1

/-- What the statuses of a tangling have to do with the document and with the trees before and
after it; `lists` are the blocks of each status. -/
structure Accounts (o : Outline) (root : Location) (tree tree' : FileTree) (report : TangleReport)
    (lists : List (List Block)) : Prop where
  /-- A status names its blocks and the location of their targets. -/
  named : List.Forall₂ (fun s bs => s.blocks = bs.map Block.name ∧
    ∀ b ∈ bs, ∃ target, b.Exports target ∧ ∀ l, s.location? = some l ↔ Names root target l)
    report.files lists
  /-- Every exported block is in one list, once, and no other block is. -/
  partition : lists.flatten.Nodup ∧
    ∀ b, b ∈ lists.flatten ↔ b ∈ o.blocks ∧ ∃ target, b.Exports target
  /-- Each list is in source order, and none is empty. -/
  sourceOrder : ∀ bs ∈ lists, bs ≠ [] ∧ bs.Pairwise fun b c => b.startLine < c.startLine
  /-- The statuses are in the order of their first blocks. -/
  firstOrder : (lists.filterMap List.head?).Pairwise fun b c => b.startLine < c.startLine
  /-- Blocks share a status when their targets name one location or are one rejected text. -/
  shared : ∀ b ∈ o.blocks, ∀ c ∈ o.blocks, ∀ target target', b.Exports target → c.Exports target' →
    ((∃ bs ∈ lists, b ∈ bs ∧ c ∈ bs) ↔
      (∃ l, Names root target l ∧ Names root target' l) ∨
        target = target' ∧ ¬ ∃ l, Names root target l)
  /-- No two statuses wrote one file. -/
  distinct : report.files.Pairwise fun s s' => ∀ l, s.Writes l → ¬ s'.Writes l
  /-- The file of each status that succeeded holds the texts of its blocks. -/
  written : List.Forall₂ (fun s bs => s.ok = true →
    ∃ l, s.location? = some l ∧ HoldsTexts o tree' l bs) report.files lists
  /-- A file that no status wrote is as it was. -/
  kept : ∀ k content, tree.node? k = some (.file content) → (¬ ∃ s ∈ report.files, s.Writes k) →
    tree'.node? k = some (.file content)
  /-- There is no file that was not there and that no status wrote. -/
  noOther : ∀ k content, tree'.node? k = some (.file content) →
    tree.node? k = some (.file content) ∨ ∃ s ∈ report.files, s.Writes k
  /-- A new directory leads to a file that was written or whose writing failed. -/
  made : ∀ k, tree'.node? k = some .directory → tree.node? k ≠ some .directory →
    tree.node? k = none ∧ ∃ s ∈ report.files, s.LeadsThrough k
  /-- The turn of a target that is rejected or cannot be expanded leaves the tree as it is. -/
  idle : ∀ n s, report.files[n]? = some s → s.ok = false → (∀ e, s.error? ≠ some (.file e)) →
    treeAfter o root tree (n + 1) = treeAfter o root tree n
  /-- The count is the number of statuses that succeeded. -/
  count : report.fileCount = report.files.countP (·.ok)

/-! ## The lists -/

theorem Gathered.mem_blocks_iff {bs : List Block} {gs : List TangleGroup}
    (h : Gathered root bs gs) (hg : g ∈ gs) :
    b ∈ g.blocks ↔ b ∈ bs ∧ ∃ target, exportOf? b = some target ∧
      destination root target = g.destination := by
  rw [h.blocks g hg, List.mem_filter, goesTo_iff]

/-- Blocks are in one group exactly when their targets go to one destination. -/
theorem Gathered.shared_iff {bs : List Block} {gs : List TangleGroup} (h : Gathered root bs gs)
    (hb : b ∈ bs) (hc : c ∈ bs) (htarget : exportOf? b = some target)
    (htarget' : exportOf? c = some target') :
    (∃ g ∈ gs, b ∈ g.blocks ∧ c ∈ g.blocks) ↔
      destination root target = destination root target' := by
  constructor
  · rintro ⟨g, hg, hbg, hcg⟩
    obtain ⟨-, u, hu, hd⟩ := (h.mem_blocks_iff hg).mp hbg
    obtain ⟨-, u', hu', hd'⟩ := (h.mem_blocks_iff hg).mp hcg
    rw [htarget] at hu
    rw [htarget'] at hu'
    cases hu
    cases hu'
    rw [hd, hd']
  · intro heq
    obtain ⟨g, hg, hd⟩ := List.mem_map.mp (h.covers b hb target htarget)
    refine ⟨g, hg, (h.mem_blocks_iff hg).mpr ⟨hb, target, htarget, hd.symm⟩, ?_⟩
    exact (h.mem_blocks_iff hg).mpr ⟨hc, target', htarget', by rw [← heq, hd]⟩

/-- A group goes where its first block goes. -/
theorem Gathered.destination_eq {bs : List Block} {gs : List TangleGroup} (h : Gathered root bs gs)
    (hg : g ∈ gs) : ∃ b ∈ bs, ∃ target, exportOf? b = some target ∧
      destination root target = g.destination := by
  obtain ⟨b, hhead, -⟩ := h.first g hg
  obtain ⟨hb, htarget⟩ := (h.mem_blocks_iff hg).mp (List.mem_of_head? hhead)
  exact ⟨b, hb, htarget⟩

/-- The groups of a document go to locations without double dots. -/
theorem notMem_of_mem_groups (hroot : parentPart ∉ root) :
    ∀ g ∈ groups root o, ∀ l, g.destination = .location l → parentPart ∉ l := by
  intro g hg l hl
  obtain ⟨b, -, target, -, hd⟩ := (groups_gathered root o).destination_eq hg
  exact notMem_of_destination hroot (hd.trans hl)

/-- The blocks of a group have targets that name its location, if it has one. -/
theorem Gathered.names_of_mem {bs : List Block} {gs : List TangleGroup} (h : Gathered root bs gs)
    (hg : g ∈ gs) (hb : b ∈ g.blocks) :
    ∃ target, b.Exports target ∧ ∀ l, g.destination.location? = some l ↔ Names root target l := by
  obtain ⟨-, target, htarget, hd⟩ := (h.mem_blocks_iff hg).mp hb
  refine ⟨target, exports_iff.mpr htarget, ?_⟩
  intro l
  rw [location?_eq_some_iff, names_iff, hd]

/-- Two different statuses write different files. -/
theorem writeGroups_distinct {gs : List TangleGroup}
    (hnodup : (gs.map TangleGroup.destination).Nodup) (memo : Memo) (tree : FileTree) :
    (writeGroups o memo tree gs).2.Pairwise fun s s' => ∀ l, s.Writes l → ¬ s'.Writes l := by
  induction gs generalizing memo tree with
  | nil => exact .nil
  | cons g gs ih =>
    rw [List.map_cons, List.nodup_cons] at hnodup
    rw [writeGroups_cons, List.pairwise_cons]
    refine ⟨?_, ih hnodup.2 _ _⟩
    intro s hs l hl
    have hd : g.destination = .location l := location?_eq_some_iff.mp hl.2
    exact not_writes_of_notMem (hd ▸ hnodup.1) _ _ s hs

/-! ## Turns that change nothing -/

theorem Turn.tree_eq {memo' : Memo} {tree' : FileTree} {error? : Option TangleError}
    (h : Turn o g memo tree memo' tree' error?) (hok : error?.isSome = true)
    (hfile : ∀ e, error? ≠ some (.file e)) : tree' = tree := by
  cases h with
  | rejected => rfl
  | stuck => rfl
  | failed => exact absurd rfl (hfile _)
  | written => cases hok

theorem writeGroups_take_succ {gs : List TangleGroup}
    (hgs : ∀ g ∈ gs, ∀ l, g.destination = .location l → parentPart ∉ l) (memo : Memo)
    (tree : FileTree) (n : ℕ) {s : TangleStatus}
    (hs : (writeGroups o memo tree gs).2[n]? = some s) (hok : s.ok = false)
    (hfile : ∀ e, s.error? ≠ some (.file e)) :
    (writeGroups o memo tree (gs.take (n + 1))).1 = (writeGroups o memo tree (gs.take n)).1 := by
  induction n generalizing gs memo tree with
  | zero =>
    cases gs with
    | nil => cases hs
    | cons g gs =>
      rw [writeGroups_cons, List.getElem?_cons_zero, Option.some.injEq] at hs
      subst hs
      have hturn := writeGroup_turn (o := o) (hgs g (by simp)) memo tree
      rw [List.take_succ_cons, List.take_zero, List.take_zero, writeGroups_cons]
      refine hturn.tree_eq ?_ hfile
      simpa [TangleStatus.ok, statusOf, Option.isSome_iff_ne_none] using hok
  | succ n ih =>
    cases gs with
    | nil => cases hs
    | cons g gs =>
      rw [writeGroups_cons, List.getElem?_cons_succ] at hs
      rw [List.take_succ_cons, List.take_succ_cons, writeGroups_cons, writeGroups_cons]
      exact ih (fun g' hg' => hgs g' (by simp [hg'])) _ _ hs

/-! ## The whole run -/

/-- There is a status for each group of the document. -/
theorem run_statuses (o : Outline) (root : Location) (tree : FileTree) :
    List.Forall₂ (fun s g => ∃ error?, s = statusOf g error?) (run o root tree).2.files
      (groups root o) :=
  writeGroups_statuses [] tree (groups root o)

/-- The tree differs only where the statuses account for it. -/
theorem run_changed (hroot : parentPart ∉ root) (o : Outline) (tree : FileTree) :
    Changed (run o root tree).2.files tree (run o root tree).1 :=
  writeGroups_changed (notMem_of_mem_groups hroot) [] tree

/-- The files of the statuses that succeed hold the texts of their blocks. -/
theorem run_written (hroot : parentPart ∉ root) (o : Outline) (tree : FileTree) :
    List.Forall₂ (fun s g => s.ok = true →
        ∃ l, s.location? = some l ∧ HoldsTexts o (run o root tree).1 l g.blocks)
      (run o root tree).2.files (groups root o) :=
  writeGroups_written (groups_gathered root o).nodup (notMem_of_mem_groups hroot)
    Expander.sound_nil tree

end Tangle

open Tangle

/-- **Tangling accounts for every block and touches nothing else.**  The blocks of the statuses are
the exported blocks, each once, gathered by the location their targets name; the files of the
statuses that succeed hold the texts of their blocks, and nothing else in the tree is different but
for new directories that lead to files. -/
theorem tangle_accounts {t : Text} {o : Outline} (ho : Outline.parse t = .ok o) {root : Location}
    (hroot : parentPart ∉ root) (tree : FileTree) :
    ∃ lists, Accounts o root tree (Tangle.run o root tree).1 (Tangle.run o root tree).2 lists := by
  have hgathered := groups_gathered root o
  have hordered := Outline.pairwise_blocks ho
  have hchanged := run_changed hroot o tree
  have hnodup : o.blocks.Nodup := hordered.imp fun h heq => by simp [heq] at h
  have hpartition := hgathered.partition
  rw [List.flatMap_def] at hpartition
  refine ⟨(groups root o).map TangleGroup.blocks, {
    named := ?named, partition := ⟨?nodup, ?exported⟩, sourceOrder := ?sourceOrder,
    firstOrder := ?firstOrder, shared := ?shared, distinct := ?distinct, written := ?written,
    kept := ?kept, noOther := ?noOther, made := ?made, idle := ?idle, count := ?count }⟩
  case named =>
    rw [List.forall₂_map_right_iff]
    refine List.Forall₂.flip (((List.forall₂_and_left _ _ (p := (· ∈ groups root o))).mpr
      ⟨fun _ h => h, (run_statuses o root tree).flip⟩).imp ?_)
    rintro g s ⟨hg, error?, rfl⟩
    exact ⟨rfl, fun b hb => hgathered.names_of_mem hg hb⟩
  case nodup =>
    exact hpartition.nodup_iff.mpr (hnodup.filter _)
  case exported =>
    intro b
    rw [hpartition.mem_iff, List.mem_filter, Option.isSome_iff_exists]
    simp only [exports_iff]
  case sourceOrder =>
    intro bs hbs
    obtain ⟨g, hg, rfl⟩ := List.mem_map.mp hbs
    obtain ⟨b, hb, -⟩ := hgathered.first g hg
    constructor
    · intro hnil
      simp [hnil] at hb
    · rw [hgathered.blocks g hg]
      exact hordered.sublist List.filter_sublist
  case firstOrder =>
    rw [List.filterMap_map]
    exact hordered.sublist hgathered.order
  case shared =>
    intro b hb c hc target target' htarget htarget'
    rw [← destination_eq_iff, ← hgathered.shared_iff hb hc (exports_iff.mp htarget)
      (exports_iff.mp htarget')]
    simp
  case distinct =>
    exact writeGroups_distinct hgathered.nodup [] tree
  case written =>
    rw [List.forall₂_map_right_iff]
    exact run_written hroot o tree
  case kept =>
    intro k content hk hwrites
    rw [hchanged.node?_eq (by rw [hk]; rfl) fun s hs h => hwrites ⟨s, hs, h⟩, hk]
  case noOther =>
    intro k content hk
    exact hchanged.file_inv hk
  case made =>
    intro k hk hdir
    rcases hchanged k with heq | ⟨-, -, content, hfile⟩ | ⟨hleads, hnone, -⟩
    · exact absurd (heq ▸ hk) hdir
    · rw [hfile] at hk
      cases hk
    · exact ⟨hnone, hleads⟩
  case idle =>
    intro n s hs hok hfile
    exact writeGroups_take_succ (notMem_of_mem_groups hroot) [] tree n hs hok hfile
  case count =>
    rw [TangleReport.fileCount, List.countP_eq_length_filter]

/-- Two spellings of one path, a path out of the directory, a block that refers to itself, and a
target below a file. -/
theorem tangle_accounts_spellings :
    let t := ("```sh a export=bin/a\n1\n```\n```sh b export=../b\n2\n```\n" ++
      "```sh c export=bin/./a\n3\n```\n```sh d export=new/d\n@[d]\n```\n" ++
      "```sh e export=old/e\n5\n```\n").toList
    let block (n : ℕ) (name : Char) (target : String) (body : Text) : Block :=
      ⟨n, n + 2, "```".toList, ⟨"sh".toList, some [name], some target.toList, [], [], false, false⟩,
        [body]⟩
    let a := block 1 'a' "bin/a" ['1']
    let b := block 4 'b' "../b" ['2']
    let c := block 7 'c' "bin/./a" ['3']
    let d := block 10 'd' "new/d" "@[d]".toList
    let e := block 13 'e' "old/e" ['5']
    let o : Outline :=
      ⟨15, [.block a, .block b, .block c, .block d, .block e], [⟨1, [], .implicit⟩]⟩
    let root : Location := ["out".toList]
    let tree : FileTree := ⟨[(root, .directory), (["out".toList, "old".toList], .file [])]⟩
    let tree' := (Tangle.run o root tree).1
    let report := (Tangle.run o root tree).2
    Outline.parse t = .ok o ∧ parentPart ∉ root ∧
      report.files.map (fun s => (s.blocks, s.ok)) =
        [([['a'], ['c']], true), ([['b']], false), ([['d']], false), ([['e']], false)] ∧
      tree'.node? ["out".toList, "bin".toList, ['a']] = some (.file (Utf8.encode "1\n3\n".toList)) ∧
      ∃ lists, Accounts o root tree tree' report lists := by
  intro t block a b c d e o root tree tree' report
  have ho : Outline.parse t = .ok o := by decide +kernel
  have hroot : parentPart ∉ root := by decide
  exact ⟨ho, hroot, by decide +kernel, by decide +kernel, tangle_accounts ho hroot tree⟩

/-! ## The directory itself -/

/-- A file that is written lies in the directory or is the directory. -/
theorem Tangle.isPrefix_of_writes {o : Outline} {root : Location} {tree : FileTree}
    {s : TangleStatus} (hs : s ∈ (Tangle.run o root tree).2.files) {k : Location}
    (hk : s.Writes k) :
    root <+: k ∧ ∃ b ∈ o.blocks, ∃ target, b.Exports target ∧ Names root target k := by
  obtain ⟨g, hg, error?, rfl⟩ := exists_of_forall₂ (run_statuses o root tree) hs
  have hd : g.destination = .location k := location?_eq_some_iff.mp hk.2
  obtain ⟨b, hb, target, htarget, heq⟩ := (groups_gathered root o).destination_eq hg
  have hnames : Names root target k := names_iff.mpr (heq.trans hd)
  exact ⟨hnames.2.2.2.2, b, hb, target, exports_iff.mpr htarget, hnames⟩

/-- Where a file is written no directory stood. -/
theorem Tangle.node?_ne_of_writes {o : Outline} {root : Location} (hroot : parentPart ∉ root)
    {tree : FileTree} {s : TangleStatus} (hs : s ∈ (Tangle.run o root tree).2.files) {k : Location}
    (hk : s.Writes k) : tree.node? k ≠ some .directory := by
  obtain ⟨g, -, hwritten⟩ := exists_of_forall₂ (run_written hroot o tree) hs
  obtain ⟨l, hl, memo, texts, -, -, -, hfile⟩ := hwritten hk.1
  rw [hk.2, Option.some.injEq] at hl
  subst hl
  -- a directory would still be one
  rcases run_changed hroot o tree k with heq | ⟨-, hdir, -⟩ | ⟨-, hnone, -⟩
  · rw [heq] at hfile
    simp [hfile]
  · exact hdir
  · simp [hnone]

/-- **Tangling stays inside its directory, where the directory stands.**  Every regular file that is
different afterwards was written by a status; what a status writes lies below the output directory,
or is the path of the directory itself: then there is no directory before, and the target of a block
names it. -/
theorem tangle_confined (o : Outline) {root : Location} (hroot : parentPart ∉ root)
    (tree : FileTree) :
    (∀ k content, (Tangle.run o root tree).1.node? k = some (.file content) →
      tree.node? k = some (.file content) ∨ ∃ s ∈ (Tangle.run o root tree).2.files, s.Writes k) ∧
    ∀ s ∈ (Tangle.run o root tree).2.files, ∀ k, s.Writes k → root <+: k ∧
      (k = root → tree.node? root ≠ some .directory ∧
        ∃ b ∈ o.blocks, ∃ target, b.Exports target ∧ Names root target root) := by
  constructor
  · intro k content hk
    exact (run_changed hroot o tree).file_inv hk
  · intro s hs k hk
    obtain ⟨hbelow, hnames⟩ := isPrefix_of_writes hs hk
    refine ⟨hbelow, ?_⟩
    rintro rfl
    exact ⟨node?_ne_of_writes hroot hs hk, hnames⟩

/-- A target that leads through the directory and one that names it, where it stands. -/
theorem tangle_confined_standing :
    let block (n : ℕ) (name : Char) (target : String) : Block :=
      ⟨n, n + 2, "```".toList, ⟨"sh".toList, some [name], some target.toList, [], [], false, false⟩,
        [[name]]⟩
    let t := ("```sh a export=x/../../out/a\na\n```\n```sh b export=.//x/..\nb\n```\n").toList
    let o : Outline := ⟨6, [.block (block 1 'a' "x/../../out/a"), .block (block 4 'b' ".//x/..")],
      [⟨1, [], .implicit⟩]⟩
    let root : Location := ["out".toList]
    let tree : FileTree := ⟨[(root, .directory)]⟩
    let files := (Tangle.run o root tree).2.files
    Outline.parse t = .ok o ∧ parentPart ∉ root ∧ files.map (·.ok) = [true, false] ∧
      ∀ s ∈ files, ∀ k, s.Writes k → root <+: k ∧ k ≠ root := by
  intro block t o root tree files
  have hroot : parentPart ∉ root := by decide
  have hstands : tree.node? root = some .directory := by decide
  refine ⟨by decide +kernel, hroot, by decide +kernel, ?_⟩
  intro s hs k hk
  obtain ⟨hbelow, hself⟩ := (tangle_confined o hroot tree).2 s hs k hk
  exact ⟨hbelow, fun h => (hself h).1 hstands⟩

/-- Where no directory stands, a target that names it is written in its place. -/
theorem tangle_confined_directory :
    ¬ ∀ t o root tree, Outline.parse t = .ok o → parentPart ∉ root →
      ∀ s ∈ (Tangle.run o root tree).2.files, ∀ k, s.Writes k → root <+: k ∧ k ≠ root := by
  intro h
  let b : Block :=
    ⟨1, 3, "```".toList, ⟨"sh".toList, some ['a'], some ['.'], [], [], false, false⟩, [['x']]⟩
  let o : Outline := ⟨3, [.block b], [⟨1, [], .implicit⟩]⟩
  have ho : Outline.parse "```sh a export=.\nx\n```\n".toList = .ok o := by decide +kernel
  have hfiles : (Tangle.run o ["out".toList] ⟨[]⟩).2.files =
      [⟨['.'], some ["out".toList], [['a']], none⟩] := by decide +kernel
  have hk := h _ o ["out".toList] ⟨[]⟩ ho (by decide)
    ⟨['.'], some ["out".toList], [['a']], none⟩ (by rw [hfiles]; exact List.mem_singleton_self _)
    ["out".toList] ⟨rfl, rfl⟩
  exact hk.2 rfl

end Literate

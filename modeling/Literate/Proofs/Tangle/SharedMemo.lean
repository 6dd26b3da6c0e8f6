import Mathlib
import Literate.Proofs.Macro.Memo
import Literate.Proofs.Tangle.Accounting

/-!
# One memo for all files

All files are expanded with one memo, in the order of their first blocks.  The text of a file and
the error in its place are nevertheless those that its blocks get from expanders of their own,
whatever else is exported and in whatever order, unless one of the blocks leads to a namesake: such
a block fails alone, and is written when a file before it has put a name on the way into the memo.

* `Tangle.run_outcomes`: every file is expanded with a memo that expanding other blocks has left.
* `Tangle.aloneText`: the text of a file from expanders of their own.
* `Tangle.fileText_eq_aloneText`: the memo makes no difference to a file without such blocks.
* `Tangle.aloneText_congr`: the text does not depend on what is exported.
* `tangle_shared_memo`: what a shared memo does to blocks and to files.
* `tangle_shared_memo_namesake`: a file that is there only because another one is.
-/

namespace Literate

open Text

/-- The blocks have one name and one body; their targets and other options may differ. -/
def Block.SameSource (b b' : Block) : Prop := b'.name = b.name ∧ b'.body = b.body

/-! ## Documents with other targets -/

namespace Expander

variable {o o' : Outline}

theorem findBlock?_congr {bs bs' : List Block} (h : List.Forall₂ Block.SameSource bs bs')
    (n : Text) :
    (bs'.find? (·.name == n)).map Block.body = (bs.find? (·.name == n)).map Block.body := by
  induction h with
  | nil => rfl
  | @cons b b' bs bs' hb hbs ih =>
    rw [List.find?_cons, List.find?_cons, hb.1]
    split
    · exact congrArg some hb.2
    · exact ih

theorem name_congr (h : List.Forall₂ Block.SameSource o.blocks o'.blocks) (fuel : ℕ) :
    ∀ chain : List Text, name o' fuel chain = name o fuel chain := by
  induction fuel with
  | zero => exact fun chain => rfl
  | succ fuel ih =>
    intro chain
    funext n
    have hfind := findBlock?_congr h n
    rw [name, name, ih, Outline.findBlock?, Outline.findBlock?]
    cases hb : o.blocks.find? (·.name == n) with
    | none =>
      rw [hb, Option.map_none, Option.map_eq_none_iff] at hfind
      rw [hfind]
    | some b =>
      rw [hb, Option.map_some, Option.map_eq_some_iff] at hfind
      obtain ⟨b', hb', hbody⟩ := hfind
      rw [hb']
      dsimp only
      rw [hbody]

/-- A block is expanded alike in a document with other targets. -/
theorem block_congr (h : List.Forall₂ Block.SameSource o.blocks o'.blocks) {b b' : Block}
    (hb : b.SameSource b') : block o' b' = block o b := by
  rw [block, block, hb.1, hb.2, name_congr h, Substitution.depth, Substitution.depth, h.length_eq]

end Expander

namespace Tangle

variable {o o' : Outline} {bs bs' : List Block} {memo : Memo}

/-- The text of a file when every block is expanded by an expander of its own. -/
def aloneText (o : Outline) (bs : List Block) : Except ExpansionError Text := do
  let texts ← bs.mapM fun b => (Expander.block o b).eval
  pure (join ['\n'] texts ++ ['\n'])

/-- The text does not depend on what is exported. -/
theorem aloneText_congr (h : List.Forall₂ Block.SameSource o.blocks o'.blocks)
    (hbs : List.Forall₂ Block.SameSource bs bs') : aloneText o' bs' = aloneText o bs := by
  have heval : List.Forall₂ (fun b b' => (Expander.block o' b').eval = (Expander.block o b).eval)
      bs bs' := hbs.imp fun b b' hb => congrArg Expander.eval (Expander.block_congr h hb)
  have hmap : bs'.mapM (fun b => (Expander.block o' b).eval) =
      bs.mapM fun b => (Expander.block o b).eval := by
    clear hbs
    induction heval with
    | nil => rw [List.mapM_nil, List.mapM_nil]
    | cons hb _ ih => rw [List.mapM_cons, List.mapM_cons, ih, hb]
  unfold aloneText
  rw [hmap]

/-! ## The memo between files -/

theorem fileText_reached (hmemo : Expander.Reached o memo) :
    Expander.Reached o ((fileText o bs).run.run memo).2 := by
  have hblock : ∀ b, Expander.Keeps (Expander.Reached o) (Expander.block o b)
      (Expander.FailsOnly fun _ => True) := fun b _ h => ⟨.block b h, fun _ _ => trivial⟩
  have hfile : Expander.Keeps (Expander.Reached o) (fileText o bs)
      (Expander.FailsOnly fun _ => True) :=
    (Expander.Keeps.mapM_failsOnly fun b _ => hblock b).bind_failsOnly
      fun _ => .pure (Expander.failsOnly_ok _)
  exact (hfile memo hmemo).1

/-- **What became of every target.**  It is expanded with a memo that expanding other blocks has
left. -/
theorem run_outcomes {root : Location} (hroot : parentPart ∉ root) (o : Outline)
    (tree : FileTree) :
    List.Forall₂ (fun s g => ∃ memo, Expander.Reached o memo ∧
        Outcome (run o root tree).1 s ((fileText o g.blocks).run.run memo).1)
      (run o root tree).2.files (groups root o) :=
  writeGroups_outcomes (fun _ _ => fileText_reached) (groups_gathered root o).nodup
    (notMem_of_mem_groups hroot) .start tree

/-- A sound memo makes no difference to a file when no block of it leads to a namesake. -/
theorem fileText_eq_aloneText
    (hbs : ∀ b ∈ bs, b ∈ o.blocks ∧ ¬Expander.LeadsToNamesake o b)
    (hmemo : Expander.Sound o memo) : ((fileText o bs).run.run memo).1 = aloneText o bs := by
  have hblocks : Expander.Keeps (Expander.Sound o) (bs.mapM (Expander.block o))
      (· = bs.mapM fun b => (Expander.block o b).eval) := by
    refine Expander.Keeps.mapM_eq (E := fun _ => True) (fun _ _ => trivial) ?_
    intro b hb _ memo hmemo
    obtain ⟨hmem, hnot⟩ := hbs b hb
    exact ⟨(Expander.block_gives b memo hmemo).1, Expander.block_eq_eval hmem hmemo hnot⟩
  exact (hblocks.bind_eq (fun _ _ => .pure rfl) memo hmemo).2

end Tangle

open Tangle

/-- **One memo for all files.**  With the memo that is left by expanding any blocks, a block gets
what a fresh expander gives it, exactly when the memo hides no cycle; it hides none from a block
that does not lead to a namesake, and the first block of a name never does.  Every target is written
or fails as its blocks are expanded with such a memo, which is as they are expanded alone when none
of them leads to a namesake; and what they get alone does not depend on the targets of the
document. -/
theorem tangle_shared_memo (o : Outline) :
    (∀ b ∈ o.blocks, ∀ memo, Expander.Reached o memo →
      (((Expander.block o b).run.run memo).1 = (Expander.block o b).eval ↔
        ¬Expander.Hides o b memo) ∧
      (¬Expander.LeadsToNamesake o b → ¬Expander.Hides o b memo)) ∧
    (∀ root, parentPart ∉ root → ∀ tree,
      List.Forall₂ (fun s g => ∃ memo, Expander.Reached o memo ∧
          Outcome (Tangle.run o root tree).1 s ((fileText o g.blocks).run.run memo).1 ∧
          ((∀ b ∈ g.blocks, ¬Expander.LeadsToNamesake o b) →
            Outcome (Tangle.run o root tree).1 s (aloneText o g.blocks)))
        (Tangle.run o root tree).2.files (groups root o)) ∧
    ∀ o', List.Forall₂ Block.SameSource o.blocks o'.blocks →
      ∀ bs bs', List.Forall₂ Block.SameSource bs bs' → aloneText o' bs' = aloneText o bs := by
  refine ⟨fun b hb memo hmemo => ?_, fun root hroot tree => ?_,
    fun o' h bs bs' => aloneText_congr h⟩
  · have hiff := Expander.block_eq_eval_iff hb hmemo.sound
    exact ⟨hiff, fun h => hiff.mp (Expander.block_eq_eval hb hmemo.sound h)⟩
  · have hmem : ∀ g ∈ groups root o, ∀ b ∈ g.blocks, b ∈ o.blocks := fun g hg b hb =>
      (((groups_gathered root o).mem_blocks_iff hg).mp hb).1
    have hboth := ((List.forall₂_and_left _ _ (p := (· ∈ groups root o))).mpr
      ⟨fun _ h => h, (run_outcomes hroot o tree).flip⟩).flip
    refine hboth.imp ?_
    rintro s g ⟨hg, memo, hmemo, houtcome⟩
    refine ⟨memo, hmemo, houtcome, fun hnot => ?_⟩
    rwa [fileText_eq_aloneText (fun b hb => ⟨hmem g hg b hb, hnot b hb⟩) hmemo.sound] at houtcome

/-- A second block of a name, which leads to no namesake, after a file that needs the first one. -/
theorem tangle_shared_memo_second :
    let t := ("```sh a\n1\n```\n```sh b\n@[a]\n```\n```sh c export=c\n@[b]\n```\n" ++
      "```sh b export=d\n@[a] 2\n```\n").toList
    let block (n : ℕ) (name : Char) (target? : Option Text) (body : String) : Block :=
      ⟨n, n + 2, "```".toList, ⟨"sh".toList, some [name], target?, [], [], false, false⟩,
        [body.toList]⟩
    let c := block 7 'c' (some ['c']) "@[b]"
    let d := block 10 'b' (some ['d']) "@[a] 2"
    let o : Outline := ⟨12, [.block (block 1 'a' none "1"), .block (block 4 'b' none "@[a]"),
      .block c, .block d], [⟨1, [], .implicit⟩]⟩
    let memo := ((Expander.block o c).run.run []).2
    Outline.parse t = .ok o ∧ d ∈ o.blocks ∧ Expander.Reached o memo ∧
      memo = [(['b'], ['1']), (['a'], ['1'])] ∧ o.findBlock? ['b'] ≠ some d ∧
      ¬Expander.LeadsToNamesake o d ∧ ((Expander.block o d).run.run memo).1 = .ok "1 2".toList ∧
      parentPart ∉ ["out".toList] ∧ (groups ["out".toList] o).map TangleGroup.blocks = [[c], [d]] ∧
      (Tangle.run o ["out".toList] ⟨[]⟩).1.node? ["out".toList, ['d']] =
        some (.file (Utf8.encode "1 2\n".toList)) := by
  intro t block c d o memo
  have hd : d ∈ o.blocks := by decide +kernel
  have hmemo : Expander.Reached o memo := .block c .start
  have heval : (Expander.block o d).eval = .ok "1 2".toList := by decide +kernel
  have hnot : ¬Expander.LeadsToNamesake o d := by
    rintro ⟨-, chain, h⟩
    rw [heval] at h
    cases h
  have hroot : parentPart ∉ ["out".toList] := by decide
  obtain ⟨hblocks, hfiles, -⟩ := tangle_shared_memo o
  obtain ⟨hiff, hhides⟩ := hblocks d hd memo hmemo
  have hrun := hfiles ["out".toList] hroot ⟨[]⟩
  have hgroups : groups ["out".toList] o = [⟨.location ["out".toList, ['c']], ['c'], [c]⟩,
      ⟨.location ["out".toList, ['d']], ['d'], [d]⟩] := by decide +kernel
  have hstatuses : (Tangle.run o ["out".toList] ⟨[]⟩).2.files =
      [⟨['c'], some ["out".toList, ['c']], [['c']], none⟩,
        ⟨['d'], some ["out".toList, ['d']], [['b']], none⟩] := by decide +kernel
  rw [hgroups, hstatuses] at hrun
  obtain ⟨-, -, -, houtcome⟩ := (List.forall₂_cons.mp (List.forall₂_cons.mp hrun).2).1
  obtain ⟨l, content, hl, hcontent, hnode⟩ := (houtcome (by simpa using hnot)).written rfl
  have halone : aloneText o [d] = .ok "1 2\n".toList := by decide +kernel
  rw [halone] at hcontent
  cases hl
  cases hcontent
  exact ⟨by decide +kernel, hd, hmemo, by decide +kernel, by decide +kernel, hnot,
    (hiff.mpr (hhides hnot)).trans heval, hroot, by rw [hgroups]; rfl, hnode⟩

/-- A block that leads to a namesake.  A fresh expander finds a cycle; with the memo of the file `c`
there is none, so the file `d` is written, and it is not when `c` is not exported. -/
theorem tangle_shared_memo_namesake :
    let t := ("```sh a\n1\n```\n```sh b\n@[a]\n```\n```sh c export=c\n@[b]\n```\n" ++
      "```sh a export=d\n@[b]\n```\n").toList
    let t' := ("```sh a\n1\n```\n```sh b\n@[a]\n```\n```sh c\n@[b]\n```\n" ++
      "```sh a export=d\n@[b]\n```\n").toList
    let block (n : ℕ) (name : Char) (target? : Option Text) (body : String) : Block :=
      ⟨n, n + 2, "```".toList, ⟨"sh".toList, some [name], target?, [], [], false, false⟩,
        [body.toList]⟩
    let c := block 7 'c' (some ['c']) "@[b]"
    let d := block 10 'a' (some ['d']) "@[b]"
    let o (c : Block) : Outline := ⟨12, [.block (block 1 'a' none "1"),
      .block (block 4 'b' none "@[a]"), .block c, .block d], [⟨1, [], .implicit⟩]⟩
    let cycle : ExpansionError := .cycle ['a'] [['a'], ['b'], ['a']]
    Outline.parse t = .ok (o c) ∧ (Expander.block (o c) d).eval = .error cycle ∧
      ((Expander.block (o c) d).run.run ((Expander.block (o c) c).run.run []).2).1 = .ok ['1'] ∧
      (¬ ∀ b ∈ (o c).blocks, ∀ memo, Expander.Reached (o c) memo →
        ((Expander.block (o c) b).run.run memo).1 = (Expander.block (o c) b).eval) ∧
      (Tangle.run (o c) ["out".toList] ⟨[]⟩).2.files.map (fun s => (s.target, s.error?)) =
        [(['c'], none), (['d'], none)] ∧
      Outline.parse t' = .ok (o (block 7 'c' none "@[b]")) ∧
      (Tangle.run (o (block 7 'c' none "@[b]")) ["out".toList] ⟨[]⟩).2.files.map
        (fun s => (s.target, s.error?)) = [(['d'], some (.expansion cycle))] := by
  intro t t' block c d o cycle
  have hfresh : (Expander.block (o c) d).eval = .error cycle := by decide +kernel
  have hshared : ((Expander.block (o c) d).run.run ((Expander.block (o c) c).run.run []).2).1 =
      .ok ['1'] := by decide +kernel
  refine ⟨by decide +kernel, hfresh, hshared, fun h => ?_, by decide +kernel, by decide +kernel,
    by decide +kernel⟩
  have heq := h d (by decide +kernel) _ (.block c .start)
  rw [hshared, hfresh] at heq
  cases heq

end Literate

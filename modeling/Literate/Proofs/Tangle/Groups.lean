import Mathlib
import Literate.Proofs.Outline.Layout
import Literate.Tangle

/-!
# Blocks by destination

The exported blocks of a document are gathered one by one.  A block joins the group of its
destination, or begins a new group at the end; so each group holds all blocks of its destination in
source order, and the groups stand in the order of their first blocks.

* `Tangle.addBlock_cases`: what adding a block does to the groups.
* `Tangle.Gathered`: what the groups have to do with the blocks seen so far.
* `Tangle.groups_gathered`: the groups of a document.
* `Outline.pairwise_blocks`: the blocks of a document stand in the order of their lines.
-/

namespace Literate

open Text

/-- The blocks of a document begin at different lines, in order. -/
theorem Outline.pairwise_blocks {t : Text} {o : Outline} (h : Outline.parse t = .ok o) :
    o.blocks.Pairwise fun b c => b.startLine < c.startLine := by
  obtain ⟨last, items, hread, rfl⟩ := Outline.parse_eq_ok_iff.mp h
  have hordered := hread.ordered
  rw [blocks, List.filterMap_filterMap, List.pairwise_filterMap]
  refine hordered.pairwise.imp_of_mem ?_
  intro i j hi hj hij b hb c hc
  have hproper := hordered.proper i hi
  rcases i with (_ | _) | _ <;> rcases j with (_ | _) | _ <;>
    simp only [Item.record?, Option.bind_some, Option.bind_none, Record.block?, Option.some.injEq,
      reduceCtorEq] at hb hc
  subst hb hc
  simp only [Item.firstLine, Item.lastLine, Record.startLine] at hproper hij
  omega

namespace Tangle

variable {root : Location} {b : Block} {target : Text} {bs : List Block} {gs : List TangleGroup}

theorem exportOf?_eq_some_iff : exportOf? b = some target ↔
    b.info.target = some target ∧ target ≠ [] ∧ b.info.hiddenInDoc = false := by
  unfold exportOf?
  cases b.info.target with
  | none => simp
  | some u =>
    simp only [Bool.or_eq_true, List.isEmpty_iff, ite_eq_iff, reduceCtorEq, and_false, false_or,
      Option.some.injEq, not_or, Bool.not_eq_true]
    constructor
    · rintro ⟨⟨hu, hb⟩, rfl⟩
      exact ⟨rfl, hu, hb⟩
    · rintro ⟨rfl, hu, hb⟩
      exact ⟨⟨hu, hb⟩, rfl⟩

/-- Whether a block is written to a destination. -/
def goesTo (root : Location) (d : Destination) (b : Block) : Bool :=
  (exportOf? b).map (destination root) == some d

theorem goesTo_iff {d : Destination} :
    goesTo root d b = true ↔ ∃ target, exportOf? b = some target ∧ destination root target = d := by
  rw [goesTo, beq_iff_eq, Option.map_eq_some_iff]

/-- A block joins the group of its destination, or begins a new one behind the others. -/
theorem addBlock_cases (d : Destination) (target : Text) (b : Block) (gs : List TangleGroup) :
    (∃ before g after, gs = before ++ g :: after ∧ g.destination = d ∧
        addBlock d target b gs = before ++ { g with blocks := g.blocks ++ [b] } :: after) ∨
      (d ∉ gs.map TangleGroup.destination ∧ addBlock d target b gs = gs ++ [⟨d, target, [b]⟩]) := by
  induction gs with
  | nil => exact .inr ⟨by simp, rfl⟩
  | cons g gs ih =>
    rw [addBlock]
    split_ifs with hg
    · exact .inl ⟨[], g, gs, rfl, hg, rfl⟩
    · rcases ih with ⟨before, g', after, rfl, hd, heq⟩ | ⟨hd, heq⟩
      · exact .inl ⟨g :: before, g', after, rfl, hd, by rw [heq]; rfl⟩
      · refine .inr ⟨?_, by rw [heq]; rfl⟩
        rw [List.map_cons, List.mem_cons, not_or]
        exact ⟨Ne.symm hg, hd⟩

/-- What groups have to do with the blocks they were gathered from. -/
structure Gathered (root : Location) (bs : List Block) (gs : List TangleGroup) : Prop where
  /-- No two groups go to one destination. -/
  nodup : (gs.map TangleGroup.destination).Nodup
  /-- A group holds the blocks of its destination, in order. -/
  blocks : ∀ g ∈ gs, g.blocks = bs.filter (goesTo root g.destination)
  /-- A group is named for the target of its first block. -/
  first : ∀ g ∈ gs, ∃ b, g.blocks.head? = some b ∧ exportOf? b = some g.target
  /-- Every block that is written is in a group. -/
  covers : ∀ b ∈ bs, ∀ target, exportOf? b = some target →
    destination root target ∈ gs.map TangleGroup.destination
  /-- Every block that is written is in one group, once. -/
  partition : (gs.flatMap TangleGroup.blocks).Perm (bs.filter fun b => (exportOf? b).isSome)
  /-- The groups stand in the order of their first blocks. -/
  order : (gs.filterMap (·.blocks.head?)).Sublist bs

namespace Gathered

theorem nil (root : Location) : Gathered root [] [] :=
  ⟨by simp, by simp, by simp, by simp, by simp, by simp⟩

/-- A block that is not written changes nothing. -/
theorem skip (h : Gathered root bs gs) (hb : exportOf? b = none) :
    Gathered root (bs ++ [b]) gs := by
  have hgoes : ∀ d, goesTo root d b = false := by
    intro d
    simp [goesTo, hb]
  refine ⟨h.nodup, ?_, h.first, ?_, ?_, h.order.trans (List.sublist_append_left _ _)⟩
  · intro g hg
    rw [h.blocks g hg, List.filter_append, List.filter_singleton, hgoes]
    simp
  · intro c hc target htarget
    rcases List.mem_append.mp hc with hc | hc
    · exact h.covers c hc target htarget
    · rw [List.mem_singleton.mp hc, hb] at htarget
      cases htarget
  · simpa [List.filter_append, hb] using h.partition

/-- The other groups go elsewhere. -/
theorem destination_ne {before after : List TangleGroup} {g : TangleGroup}
    (h : Gathered root bs (before ++ g :: after)) {g' : TangleGroup} (hg' : g' ∈ before ++ after) :
    g'.destination ≠ g.destination := by
  intro heq
  have hnodup := h.nodup
  rw [List.map_append, List.map_cons, List.nodup_middle, List.nodup_cons, ← List.map_append]
    at hnodup
  exact hnodup.1 (List.mem_map.mpr ⟨g', hg', heq⟩)

/-- A block joins the group of its destination. -/
theorem join {before after : List TangleGroup} {g : TangleGroup}
    (h : Gathered root bs (before ++ g :: after)) (hb : exportOf? b = some target)
    (hg : g.destination = destination root target) :
    Gathered root (bs ++ [b]) (before ++ { g with blocks := g.blocks ++ [b] } :: after) := by
  have hdestinations : (before ++ { g with blocks := g.blocks ++ [b] } :: after).map
      TangleGroup.destination = (before ++ g :: after).map TangleGroup.destination := by simp
  have hgoes : ∀ d, goesTo root d b = true ↔ g.destination = d := by
    intro d
    simp [goesTo, hb, hg]
  have hmem : g ∈ before ++ g :: after := by simp
  obtain ⟨b₀, hb₀, htarget₀⟩ := h.first g hmem
  have hhead : (g.blocks ++ [b]).head? = some b₀ := by rw [List.head?_append, hb₀]; rfl
  have hcases : ∀ g' ∈ before ++ { g with blocks := g.blocks ++ [b] } :: after,
      g' = { g with blocks := g.blocks ++ [b] } ∨ g' ∈ before ++ after := by
    intro g' hg'
    simp only [List.mem_append, List.mem_cons] at hg' ⊢
    tauto
  have hold : ∀ g' ∈ before ++ after, g' ∈ before ++ g :: after := by
    intro g' hg'
    simp only [List.mem_append, List.mem_cons] at hg' ⊢
    tauto
  refine ⟨by rw [hdestinations]; exact h.nodup, ?_, ?_, ?_, ?_, ?_⟩
  · intro g' hg'
    rcases hcases g' hg' with rfl | hg'
    · rw [List.filter_append, List.filter_singleton, (hgoes _).mpr rfl, h.blocks g hmem]
      rfl
    · have hfalse : goesTo root g'.destination b = false := by
        rw [Bool.eq_false_iff, ne_eq, hgoes]
        exact Ne.symm (h.destination_ne hg')
      rw [List.filter_append, List.filter_singleton, hfalse, h.blocks g' (hold g' hg')]
      simp
  · intro g' hg'
    rcases hcases g' hg' with rfl | hg'
    · exact ⟨b₀, hhead, htarget₀⟩
    · exact h.first g' (hold g' hg')
  · intro c hc target' htarget'
    rw [hdestinations]
    rcases List.mem_append.mp hc with hc | hc
    · exact h.covers c hc target' htarget'
    · rw [List.mem_singleton.mp hc, hb] at htarget'
      cases htarget'
      rw [← hg]
      exact List.mem_map_of_mem hmem
  · have hmoved : ((before ++ { g with blocks := g.blocks ++ [b] } :: after).flatMap
        TangleGroup.blocks).Perm ((before ++ g :: after).flatMap TangleGroup.blocks ++ [b]) := by
      simp only [List.flatMap_append, List.flatMap_cons, List.append_assoc]
      refine List.Perm.append_left _ (List.Perm.append_left _ ?_)
      exact List.perm_append_comm
    rw [List.filter_append, List.filter_singleton, hb]
    exact hmoved.trans (h.partition.append_right [b])
  · have hheads : (before ++ { g with blocks := g.blocks ++ [b] } :: after).filterMap
        (·.blocks.head?) = (before ++ g :: after).filterMap (·.blocks.head?) := by
      simp only [List.filterMap_append, List.filterMap_cons, hhead, hb₀]
    rw [hheads]
    exact h.order.trans (List.sublist_append_left _ _)

/-- A block begins a group. -/
theorem begin (h : Gathered root bs gs) (hb : exportOf? b = some target)
    (hnew : destination root target ∉ gs.map TangleGroup.destination) :
    Gathered root (bs ++ [b]) (gs ++ [⟨destination root target, target, [b]⟩]) := by
  have hgoes : ∀ d, goesTo root d b = true ↔ destination root target = d := by
    intro d
    simp [goesTo, hb]
  refine ⟨?_, ?_, ?_, ?_, ?_, ?_⟩
  · rw [List.map_append, List.map_singleton, ← List.concat_eq_append]
    exact h.nodup.concat hnew
  · intro g hg
    rcases List.mem_append.mp hg with hg | hg
    · have hfalse : goesTo root g.destination b = false := by
        rw [Bool.eq_false_iff, ne_eq, hgoes]
        rintro heq
        exact hnew (by rw [heq]; exact List.mem_map_of_mem hg)
      rw [List.filter_append, List.filter_singleton, hfalse, h.blocks g hg]
      simp
    · obtain rfl := List.mem_singleton.mp hg
      -- no block before went to this destination
      have hnone : bs.filter (goesTo root (destination root target)) = [] := by
        rw [List.filter_eq_nil_iff]
        intro c hc hgoes'
        obtain ⟨target', htarget', heq⟩ := goesTo_iff.mp hgoes'
        exact hnew (heq ▸ h.covers c hc target' htarget')
      rw [List.filter_append, List.filter_singleton, hnone, (hgoes _).mpr rfl]
      rfl
  · intro g hg
    rcases List.mem_append.mp hg with hg | hg
    · exact h.first g hg
    · obtain rfl := List.mem_singleton.mp hg
      exact ⟨b, rfl, hb⟩
  · intro c hc target' htarget'
    rw [List.map_append, List.mem_append]
    rcases List.mem_append.mp hc with hc | hc
    · exact .inl (h.covers c hc target' htarget')
    · rw [List.mem_singleton.mp hc, hb] at htarget'
      cases htarget'
      exact .inr (by simp)
  · rw [List.filter_append, List.filter_singleton, hb, List.flatMap_append]
    exact h.partition.append_right [b]
  · rw [List.filterMap_append]
    exact h.order.append (List.Sublist.refl [b])

/-- One more block. -/
theorem gather (h : Gathered root bs gs) (b : Block) :
    Gathered root (bs ++ [b]) (Tangle.gather root gs b) := by
  rw [Tangle.gather]
  cases hb : exportOf? b with
  | none => exact h.skip hb
  | some target =>
    dsimp only
    rcases addBlock_cases (destination root target) target b gs with
      ⟨before, g, after, rfl, hg, heq⟩ | ⟨hnew, heq⟩
    · rw [heq]
      exact h.join hb hg
    · rw [heq]
      exact h.begin hb hnew

end Gathered

/-- **The groups of a document** are gathered from all its blocks. -/
theorem groups_gathered (root : Location) (o : Outline) :
    Gathered root o.blocks (groups root o) := by
  have hfold : ∀ bs : List Block, Gathered root bs (bs.foldl (gather root) []) := by
    intro bs
    induction bs using List.reverseRecOn with
    | nil => exact .nil root
    | append_singleton bs b ih =>
      rw [List.foldl_append]
      exact ih.gather b
  exact hfold o.blocks

end Tangle

end Literate

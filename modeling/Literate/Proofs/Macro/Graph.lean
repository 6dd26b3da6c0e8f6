import Mathlib
import Literate.Proofs.Macro.Reference

/-!
# The graph of references

A name refers to the names of the references in the body of its first block.  A name can be expanded
when everything reached from it is defined and lies on no cycle; then it stands for exactly one
text, the plain substitution all the way down.

* `Outline.RefersTo`: the edges of the graph.
* `Outline.Expandable`: all that is reached from a name is defined and on no cycle.
* `Outline.StandsFor`: a name stands for its body with what the names in it stand for.
* `Outline.StandsFor.unique`, `Outline.StandsFor.expandable`: at most one text, and only for names
  that can be expanded.
* `Outline.Distinct`: chains without repetition, no longer than the list of blocks.
* `Outline.Fault`, `Outline.Fault.not_expandable`: a chain that shows that a name cannot be
  expanded.
-/

namespace Literate

open Text Relation

namespace Outline

/-- A name refers to another one: the reference to it stands in the body of its first block. -/
def RefersTo (o : Outline) (u v : Text) : Prop :=
  ∃ b, o.findBlock? u = some b ∧ ∃ l ∈ b.body,
    Reference.IsName v ∧ ∃ before after, l = before ++ Reference.written v ++ after

variable {o : Outline}

theorem refersTo_iff {u v : Text} {b : Block} (hb : o.findBlock? u = some b) :
    o.RefersTo u v ↔ ∃ l ∈ b.body, v ∈ Reference.names l := by
  simp only [Reference.mem_names_iff, RefersTo, hb, Option.some.injEq, exists_eq_left']

/-- A name that can be expanded: all that is reached from it is defined and on no cycle. -/
structure Expandable (o : Outline) (n : Text) : Prop where
  defined : ∀ m, ReflTransGen o.RefersTo n m → ∃ b, o.findBlock? m = some b
  acyclic : ∀ m, ReflTransGen o.RefersTo n m → ¬TransGen o.RefersTo m m

/-- What a name stands for: the body of its first block, with each reference replaced by what its
name stands for. -/
inductive StandsFor (o : Outline) : Text → Text → Prop
  | intro {n b} (σ : Text → Text) (hb : o.findBlock? n = some b)
      (h : ∀ v, o.RefersTo n v → StandsFor o v (σ v)) :
      StandsFor o n (Macro.substituteBody σ b.body)

namespace StandsFor

/-- A name stands for at most one text. -/
theorem unique {n t : Text} (h : o.StandsFor n t) : ∀ {t'}, o.StandsFor n t' → t = t' := by
  induction h with
  | @intro n b σ hb h ih =>
    rintro t' ⟨τ, hb', h'⟩
    obtain rfl := Option.some.inj (hb.symm.trans hb')
    refine Macro.substituteBody_congr fun l hl v hv => ?_
    have href : o.RefersTo n v := (refersTo_iff hb).mpr ⟨l, hl, hv⟩
    exact ih v href (h' v href)

/-- Only names that can be expanded stand for a text. -/
theorem expandable {n t : Text} (h : o.StandsFor n t) : o.Expandable n := by
  induction h with
  | @intro n b σ hb h ih =>
    constructor
    · intro m hm
      rcases hm.cases_head with rfl | ⟨v, hv, hm⟩
      · exact ⟨b, hb⟩
      · exact (ih v hv).defined m hm
    · intro m hm hcycle
      rcases hm.cases_head with rfl | ⟨v, hv, hm⟩
      · -- the cycle leads through a name referred to, which is reached from there again
        obtain ⟨v, hv, hback⟩ := TransGen.head'_iff.mp hcycle
        exact (ih v hv).acyclic n hback (TransGen.head' hv hback)
      · exact (ih v hv).acyclic m hm hcycle

/-- One substitution serves all names. -/
theorem exists_substitution (o : Outline) :
    ∃ σ : Text → Text, ∀ n t, o.StandsFor n t → σ n = t := by
  classical
  refine ⟨fun n => if h : ∃ t, o.StandsFor n t then h.choose else [], fun n t ht => ?_⟩
  have h : ∃ t, o.StandsFor n t := ⟨t, ht⟩
  simp only [dif_pos h]
  exact h.choose_spec.unique ht

end StandsFor

/-! ## Chains -/

/-- A chain of names as expansion builds it: no name repeats, and all are names of blocks. -/
structure Distinct (o : Outline) (chain : List Text) : Prop where
  nodup : chain.Nodup
  defined : ∀ m ∈ chain, ∃ b, o.findBlock? m = some b

namespace Distinct

variable {chain : List Text}

theorem singleton {n : Text} {b : Block} (hb : o.findBlock? n = some b) : o.Distinct [n] :=
  ⟨by simp, fun m hm => by rw [List.mem_singleton.mp hm]; exact ⟨b, hb⟩⟩

theorem append (h : o.Distinct chain) {n : Text} {b : Block} (hn : n ∉ chain)
    (hb : o.findBlock? n = some b) : o.Distinct (chain ++ [n]) := by
  refine ⟨List.nodup_append.mpr ⟨h.nodup, by simp, ?_⟩, ?_⟩
  · rintro a ha c hc rfl
    rw [List.mem_singleton.mp hc] at ha
    exact hn ha
  · intro m hm
    rcases List.mem_append.mp hm with hm | hm
    · exact h.defined m hm
    · rw [List.mem_singleton.mp hm]
      exact ⟨b, hb⟩

/-- There are no more names on the chain than blocks. -/
theorem length_le (h : o.Distinct chain) : chain.length ≤ o.blocks.length := by
  have hsub : chain ⊆ o.blocks.map Block.name := by
    intro m hm
    obtain ⟨b, hb⟩ := h.defined m hm
    exact List.mem_map.mpr ⟨b, mem_of_findBlock? hb, name_of_findBlock? hb⟩
  simpa using (h.nodup.subperm hsub).length_le

end Distinct

theorem isChain_concat (chain : List Text) {n v : Text}
    (h : (chain ++ [n]).IsChain o.RefersTo)
    (hv : o.RefersTo n v) : (chain ++ [n] ++ [v]).IsChain o.RefersTo := by
  rw [List.append_assoc, List.singleton_append, List.isChain_append_cons_cons]
  exact ⟨h, hv, .singleton v⟩

/-- A chain of references from a name to one that is undefined or that the chain has met before. -/
structure Fault (o : Outline) (n : Text) (chain : List Text) : Prop where
  head : chain.head? = some n
  linked : chain.IsChain o.RefersTo
  last : ∃ m, chain.getLast? = some m ∧ (o.findBlock? m = none ∨ m ∈ chain.dropLast)

theorem transGen_of_isChain {n m : Text} {rest : List Text}
    (h : (n :: rest).IsChain o.RefersTo) (hm : m ∈ rest) : TransGen o.RefersTo n m :=
  (h.imp fun _ _ => TransGen.single).rel_cons hm

/-- A name with such a chain cannot be expanded. -/
theorem Fault.not_expandable {n : Text} {chain : List Text} (h : o.Fault n chain) :
    ¬o.Expandable n := by
  intro hexp
  obtain ⟨m, hlast, hfault⟩ := h.last
  obtain ⟨rest, rfl⟩ : ∃ rest, chain = n :: rest := List.head?_eq_some_iff.mp h.head
  have hreach : ∀ x ∈ n :: rest, ReflTransGen o.RefersTo n x := by
    intro x hx
    rcases List.mem_cons.mp hx with rfl | hx
    · exact .refl
    · exact (transGen_of_isChain h.linked hx).to_reflTransGen
  have hm : ReflTransGen o.RefersTo n m := hreach m (List.mem_of_getLast? hlast)
  rcases hfault with hnone | hmem
  · obtain ⟨b, hb⟩ := hexp.defined m hm
    rw [hnone] at hb
    cases hb
  · obtain ⟨front, back, hsplit⟩ := List.append_of_mem hmem
    have hchain : n :: rest = front ++ m :: (back ++ [m]) := by
      rw [← List.dropLast_append_getLast? m hlast, hsplit]
      simp
    have hlinked := h.linked
    rw [hchain] at hlinked
    exact hexp.acyclic m hm (transGen_of_isChain hlinked.right_of_append (by simp))

end Outline

end Literate

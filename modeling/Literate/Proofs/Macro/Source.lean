import Mathlib
import Literate.Proofs.Macro.Expansion

/-!
# The source of a block

Any block has a source, also one whose name belongs to an earlier block: its body with each
reference replaced by what the name stands for.  Whatever an expander has expanded before, the text
it gives for a block is that source.

* `Outline.HasSource`: the source of a block.
* `Expander.block_gives`: with a sound memo, what is given for a block is its source.
-/

namespace Literate

open Text

namespace Outline

variable {o : Outline} {b : Block} {t : Text}

/-- The text is the body of the block with each reference replaced by what the name stands for. -/
def HasSource (o : Outline) (b : Block) (t : Text) : Prop :=
  ∃ σ : Text → Text, (∀ l ∈ b.body, ∀ v ∈ Reference.names l, o.StandsFor v (σ v)) ∧
    Macro.substituteBody σ b.body = t

/-- The source of the first block of a name is what the name stands for. -/
theorem HasSource.standsFor {n : Text} (hb : o.findBlock? n = some b) (h : o.HasSource b t) :
    o.StandsFor n t := by
  obtain ⟨σ, hσ, rfl⟩ := h
  refine .intro σ hb fun v hv => ?_
  obtain ⟨l, hl, hmem⟩ := (refersTo_iff hb).mp hv
  exact hσ l hl v hmem

end Outline

namespace Expander

variable {o : Outline}

/-- A body whose references are expanded to what they stand for is expanded to its source. -/
theorem body_gives {resolve : Text → Expander Text} {b : Block}
    (h : ∀ v, Meets o (resolve v) (o.StandsFor v) fun _ => True) :
    Meets o (Macro.expandBody resolve b.body) (o.HasSource b) fun _ => True := by
  obtain ⟨σ, hσ⟩ := Outline.StandsFor.exists_substitution o
  have hnames : ∀ l ∈ b.body, ∀ v ∈ Reference.names l,
      Meets o (resolve v) (o.StandsFor v) fun _ => True := fun _ _ v _ => h v
  have hbody := expandBody_meets hσ hnames
  exact hbody.imp (fun t ht => ⟨σ, ht⟩) fun _ he => he

/-- A name that is expanded below any chain, under any bound, is expanded to what it stands for. -/
theorem name_gives (fuel : ℕ) : ∀ (chain : List Text) (n : Text),
    Meets o (name o fuel chain n) (o.StandsFor n) fun _ => True := by
  induction fuel with
  | zero =>
    intro chain n
    exact Meets.throw trivial
  | succ fuel ih =>
    intro chain n
    rw [name]
    split_ifs
    · exact Meets.throw trivial
    · refine Meets.bind Meets.get fun memo hmemo => ?_
      cases hlookup : memo.lookup n with
      | some t => exact Meets.pure (hmemo n t hlookup)
      | none =>
        dsimp only
        cases hb : o.findBlock? n with
        | none => exact Meets.throw trivial
        | some b =>
          refine Meets.bind (body_gives fun v => ih (chain ++ [n]) v) fun t ht => ?_
          have hn := ht.standsFor hb
          exact Meets.bind (Meets.modify fun _ hmemo => hmemo.cons hn) fun _ _ => Meets.pure hn

/-- **What is given for a block** is its source, whatever was expanded before. -/
theorem block_gives (b : Block) : Meets o (block o b) (o.HasSource b) fun _ => True :=
  body_gives fun v => name_gives _ _ v

theorem blocks_give (bs : List Block) :
    Meets o (bs.mapM (block o)) (List.Forall₂ o.HasSource bs) fun _ => True :=
  Meets.mapM fun b _ => block_gives b

end Expander

end Literate

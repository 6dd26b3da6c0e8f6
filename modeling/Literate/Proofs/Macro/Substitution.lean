import Mathlib
import Literate.Proofs.Macro.Graph

/-!
# Plain substitution

Plain recursive substitution computes what a name stands for.

* `Substitution.expandBody_ok`: a body whose references all expand.
* `Substitution.block_of_standsFor`: plain substitution in a block gives what its name stands for.
-/

namespace Literate

open Text Relation

namespace Substitution

variable {o : Outline}

theorem mapM_ok {α β : Type} {f : α → Except ExpansionError β} {g : α → β} {xs : List α}
    (h : ∀ a ∈ xs, f a = .ok (g a)) : xs.mapM f = .ok (xs.map g) := by
  induction xs with
  | nil => rfl
  | cons a xs ih =>
    rw [List.mapM_cons, h a (by simp), ih fun b hb => h b (by simp [hb])]
    rfl

section

variable {resolve : Text → Except ExpansionError Text} {σ : Text → Text}

theorem expandLine_ok {l : Line} (h : ∀ v ∈ Reference.names l, resolve v = .ok (σ v)) :
    Macro.expandLine resolve l = .ok (Macro.substituteLine σ l) := by
  have hrest : (Reference.segments l).rest.mapM (fun p => resolve p.1) =
      .ok ((Reference.segments l).rest.map (σ ·.1)) :=
    mapM_ok fun p hp => h p.1 (List.mem_map_of_mem hp)
  rw [← Macro.assemble_eq, Macro.expandLine]
  simp only [hrest]
  rfl

/-- A body whose references all expand is expanded to the body with them substituted. -/
theorem expandBody_ok {body : List Line}
    (h : ∀ l ∈ body, ∀ v ∈ Reference.names l, resolve v = .ok (σ v)) :
    Macro.expandBody resolve body = .ok (Macro.substituteBody σ body) := by
  rw [Macro.expandBody, mapM_ok fun l hl => expandLine_ok (h l hl), Macro.substituteBody,
    List.flatMap_def]
  rfl

end

/-- A name is expanded to what it stands for, below every chain that it does not lead back to. -/
theorem name_of_standsFor {n t : Text} (h : o.StandsFor n t) : ∀ {fuel : ℕ} {chain : List Text},
    o.Distinct chain → o.blocks.length < chain.length + fuel →
      (∀ m ∈ chain, ¬ReflTransGen o.RefersTo n m) → name o fuel chain n = .ok t := by
  induction h with
  | @intro n b σ hb hrefs ih =>
    intro fuel chain hdistinct hroom haway
    have hn : n ∉ chain := fun hmem => haway n hmem .refl
    cases fuel with
    | zero =>
      have := hdistinct.length_le
      omega
    | succ fuel =>
      rw [name, if_neg (by simpa using hn), hb]
      refine expandBody_ok fun l hl v hv => ?_
      have href : o.RefersTo n v := (Outline.refersTo_iff hb).mpr ⟨l, hl, hv⟩
      refine ih v href (hdistinct.append hn hb) ?_ ?_
      · rw [List.length_append, List.length_singleton]
        omega
      · intro m hm hreach
        rcases List.mem_append.mp hm with hm | hm
        · exact haway m hm (.head href hreach)
        · -- a reference that leads back would be a cycle
          rw [List.mem_singleton.mp hm] at hreach
          exact (hrefs v href).expandable.acyclic n hreach (.head' href hreach)

/-- **Plain substitution** in a block gives what its name stands for. -/
theorem block_of_standsFor {n t : Text} {b : Block} (hb : o.findBlock? n = some b)
    (h : o.StandsFor n t) : block o b = .ok t := by
  have hname := Outline.name_of_findBlock? hb
  have hstep : name o (depth o + 1) [] n = .ok t := by
    refine name_of_standsFor h ⟨by simp, by simp⟩ ?_ (by simp)
    rw [depth, List.length_nil]
    omega
  rw [name, if_neg (by simp), hb] at hstep
  rw [block, hname]
  exact hstep

end Substitution

end Literate

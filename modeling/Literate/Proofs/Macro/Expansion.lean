import Mathlib
import Literate.Proofs.Macro.Graph
import Literate.Proofs.Macro.Substitution

/-!
# Expansion with a memo

The memo holds only names with the texts they stand for, so it makes no difference to the result;
the chain of names is a path without repetition through the graph of references, so it is never
longer than the list of blocks, and every failure shows a chain at fault.

* `Expander.Keeps`: a computation keeps a property of the memo and gives what is promised.
* `Expander.Meets`: the same for a sound memo, with a promise for texts and one for errors.
* `Expander.name_meets`: a name is expanded to what it stands for, or a chain at fault is found.
* `Expander.name_add_fuel`: the bound on the length of chains is never met.
* `expandBlock_correct`: expansion succeeds exactly on names that can be expanded.
-/

namespace Literate

open Text Relation

namespace Expander

variable {α β : Type} {o : Outline}

/-- A memo in which every name has the text it stands for. -/
def Sound (o : Outline) (memo : Memo) : Prop := ∀ n t, memo.lookup n = some t → o.StandsFor n t

theorem sound_nil : Sound o [] := by
  intro n t h
  cases h

theorem lookup_cons_inv {memo : Memo} {n m t u : Text}
    (h : List.lookup m ((n, t) :: memo) = some u) : m = n ∧ u = t ∨ memo.lookup m = some u := by
  rw [List.lookup_cons] at h
  cases hmn : m == n with
  | true =>
    rw [hmn] at h
    cases h
    exact .inl ⟨beq_iff_eq.mp hmn, rfl⟩
  | false =>
    rw [hmn] at h
    exact .inr h

theorem Sound.cons {memo : Memo} (h : Sound o memo) {n t : Text} (hn : o.StandsFor n t) :
    Sound o ((n, t) :: memo) := by
  intro m u hm
  rcases lookup_cons_inv hm with ⟨rfl, rfl⟩ | hm
  · exact hn
  · exact h m u hm

theorem run_bind (x : Expander α) (f : α → Expander β) (memo : Memo) :
    (x >>= f).run.run memo =
      match x.run.run memo with
      | (.ok a, memo') => (f a).run.run memo'
      | (.error e, memo') => (.error e, memo') := by
  rw [ExceptT.run_bind, StateT.run_bind]
  cases x.run.run memo with
  | mk res memo' => cases res <;> rfl

/-- From every memo with `I` the computation leaves one with `I` and gives a result with `P`. -/
def Keeps (I : Memo → Prop) (x : Expander α) (P : Except ExpansionError α → Prop) : Prop :=
  ∀ memo, I memo → I (x.run.run memo).2 ∧ P (x.run.run memo).1

namespace Keeps

variable {I : Memo → Prop} {P : Except ExpansionError α → Prop}
  {Q : Except ExpansionError β → Prop}

theorem pure {a : α} (h : P (.ok a)) : Keeps I (pure a) P := fun _ hmemo => ⟨hmemo, h⟩

theorem throw {e : ExpansionError} (h : P (.error e)) : Keeps I (throw e) P :=
  fun _ hmemo => ⟨hmemo, h⟩

theorem bind {x : Expander α} {f : α → Expander β} (hx : Keeps I x P)
    (hf : ∀ a, P (.ok a) → Keeps I (f a) Q) (herror : ∀ e, P (.error e) → Q (.error e)) :
    Keeps I (x >>= f) Q := by
  intro memo hmemo
  obtain ⟨hkeeps, hres⟩ := hx memo hmemo
  rw [run_bind]
  cases hrun : x.run.run memo with
  | mk res memo' =>
    rw [hrun] at hkeeps hres
    cases res with
    | ok a => exact hf a hres memo' hkeeps
    | error e => exact ⟨hkeeps, herror e hres⟩

end Keeps

/-- From every sound memo the computation leaves a sound one, and it gives a result with `P` or
fails with an error with `E`. -/
def Meets (o : Outline) (x : Expander α) (P : α → Prop) (E : ExpansionError → Prop) : Prop :=
  ∀ memo, Sound o memo → Sound o (x.run.run memo).2 ∧
    (∀ a, (x.run.run memo).1 = .ok a → P a) ∧ ∀ e, (x.run.run memo).1 = .error e → E e

namespace Meets

variable {P : α → Prop} {Q : β → Prop} {E : ExpansionError → Prop}

theorem iff_keeps {x : Expander α} : Meets o x P E ↔ Keeps (Sound o) x fun res =>
    (∀ a, res = .ok a → P a) ∧ ∀ e, res = .error e → E e := Iff.rfl

theorem pure {a : α} (h : P a) : Meets o (pure a) P E :=
  iff_keeps.mpr (.pure ⟨fun _ hb => Except.ok.inj hb ▸ h, nofun⟩)

theorem throw {e : ExpansionError} (h : E e) : Meets o (throw e : Expander α) P E :=
  iff_keeps.mpr (.throw ⟨nofun, fun _ he => Except.error.inj he ▸ h⟩)

theorem bind {x : Expander α} {f : α → Expander β} (hx : Meets o x P E)
    (hf : ∀ a, P a → Meets o (f a) Q E) : Meets o (x >>= f) Q E :=
  iff_keeps.mpr ((iff_keeps.mp hx).bind (fun a ha => hf a (ha.1 a rfl))
    fun _ he => ⟨nofun, fun _ he' => Except.error.inj he' ▸ he.2 _ rfl⟩)

theorem imp {x : Expander α} {P' : α → Prop} {E' : ExpansionError → Prop} (hx : Meets o x P E)
    (hP : ∀ a, P a → P' a) (hE : ∀ e, E e → E' e) : Meets o x P' E' := by
  intro memo hmemo
  obtain ⟨hsound, hok, herror⟩ := hx memo hmemo
  exact ⟨hsound, fun a ha => hP a (hok a ha), fun e he => hE e (herror e he)⟩

theorem get : Meets o (get : Expander Memo) (Sound o) E := by
  intro memo hmemo
  refine ⟨hmemo, fun b hb => ?_, fun e he => by cases he⟩
  cases hb
  exact hmemo

theorem modify {f : Memo → Memo} (h : ∀ memo, Sound o memo → Sound o (f memo)) :
    Meets o (modify f : Expander PUnit) (fun _ => True) E := by
  intro memo hmemo
  exact ⟨h memo hmemo, fun _ _ => trivial, fun e he => by cases he⟩

/-- Computations for the members of a list, one after the other. -/
theorem mapM {R : α → β → Prop} {f : α → Expander β} {xs : List α}
    (h : ∀ a ∈ xs, Meets o (f a) (R a) E) :
    Meets o (xs.mapM f) (fun bs => List.Forall₂ R xs bs) E := by
  induction xs with
  | nil => rw [List.mapM_nil]; exact pure .nil
  | cons a xs ih =>
    rw [List.mapM_cons]
    refine bind (h a (by simp)) fun b hb => ?_
    refine bind (ih fun c hc => h c (by simp [hc])) fun bs hbs => ?_
    exact pure (.cons hb hbs)

end Meets

/-! ## Bodies -/

section

variable {resolve : Text → Expander Text} {E : ExpansionError → Prop} {σ : Text → Text}

/-- A line is replaced by what it is with its references substituted. -/
theorem expandLine_meets (hσ : ∀ n t, o.StandsFor n t → σ n = t) {l : Line}
    (h : ∀ v ∈ Reference.names l, Meets o (resolve v) (o.StandsFor v) E) :
    Meets o (Macro.expandLine resolve l)
      (fun ls => (∀ v ∈ Reference.names l, o.StandsFor v (σ v)) ∧
        Macro.substituteLine σ l = ls) E := by
  have hresolve : Meets o ((Reference.segments l).rest.mapM fun p => resolve p.1)
      (List.Forall₂ (fun p t => o.StandsFor p.1 (σ p.1) ∧ σ p.1 = t) (Reference.segments l).rest)
      E := by
    refine Meets.mapM fun p hp => ?_
    refine (h p.1 (List.mem_map_of_mem hp)).imp (fun t ht => ?_) fun _ he => he
    rw [hσ _ _ ht]
    exact ⟨ht, rfl⟩
  refine Meets.bind hresolve fun expansions hexp => Meets.pure ?_
  obtain ⟨hstands, heq⟩ := (List.forall₂_and_left _ _).mp hexp
  rw [← List.forall₂_map_left_iff, List.forall₂_eq_eq_eq] at heq
  refine ⟨fun v hv => ?_, ?_⟩
  · obtain ⟨p, hp, rfl⟩ := List.mem_map.mp hv
    exact hstands p hp
  · rw [← heq, Macro.assemble_eq]

/-- A body is replaced by what it is with its references substituted. -/
theorem expandBody_meets (hσ : ∀ n t, o.StandsFor n t → σ n = t) {body : List Line}
    (h : ∀ l ∈ body, ∀ v ∈ Reference.names l, Meets o (resolve v) (o.StandsFor v) E) :
    Meets o (Macro.expandBody resolve body)
      (fun t => (∀ l ∈ body, ∀ v ∈ Reference.names l, o.StandsFor v (σ v)) ∧
        Macro.substituteBody σ body = t) E := by
  refine Meets.bind (Meets.mapM fun l hl => expandLine_meets hσ (h l hl)) fun lss hlss =>
    Meets.pure ?_
  obtain ⟨hstands, heq⟩ := (List.forall₂_and_left _ _).mp hlss
  rw [← List.forall₂_map_left_iff, List.forall₂_eq_eq_eq] at heq
  exact ⟨hstands, by rw [← heq, Macro.substituteBody, List.flatMap_def]⟩

end

/-! ## Names -/

/-- What is wrong with the name an error reports: it was met before, or it is undefined. -/
def IsReason (o : Outline) : ExpansionError → Prop
  | .cycle n chain => n ∈ chain.dropLast
  | .unknown n _ => o.findBlock? n = none

/-- An error whose chain goes on from the given one, follows references and ends at the name at
fault. -/
structure Blames (o : Outline) (chain : List Text) (e : ExpansionError) : Prop where
  prefix_chain : chain <+: e.chain
  linked : e.chain.IsChain o.RefersTo
  last : e.chain.getLast? = some e.name
  reason : IsReason o e

/-- A block's body is expanded to what its name stands for, when the names it refers to are. -/
theorem body_meets {resolve : Text → Expander Text} (chain : List Text) {n : Text} {b : Block}
    (hb : o.findBlock? n = some b)
    (h : ∀ v, o.RefersTo n v →
      Meets o (resolve v) (o.StandsFor v) (Blames o (chain ++ [n] ++ [v]))) :
    Meets o (Macro.expandBody resolve b.body) (o.StandsFor n) (Blames o (chain ++ [n])) := by
  obtain ⟨σ, hσ⟩ := Outline.StandsFor.exists_substitution o
  have hbody := expandBody_meets (E := Blames o (chain ++ [n])) hσ fun l hl v hv =>
    (h v ((Outline.refersTo_iff hb).mpr ⟨l, hl, hv⟩)).imp (fun _ ht => ht) fun e he =>
      { he with prefix_chain := (List.prefix_append _ _).trans he.prefix_chain }
  refine hbody.imp (fun t ht => ?_) fun _ he => he
  obtain ⟨hstands, rfl⟩ := ht
  refine .intro σ hb fun v hv => ?_
  obtain ⟨l, hl, hmem⟩ := (Outline.refersTo_iff hb).mp hv
  exact hstands l hl v hmem

/-- **Expansion of a name.**  Below a chain of names it gives what the name stands for, or an error
whose chain shows why the name stands for nothing. -/
theorem name_meets (fuel : ℕ) : ∀ (chain : List Text) (n : Text), o.Distinct chain →
    (chain ++ [n]).IsChain o.RefersTo → o.blocks.length < chain.length + fuel →
      Meets o (name o fuel chain n) (o.StandsFor n) (Blames o (chain ++ [n])) := by
  induction fuel with
  | zero =>
    -- a chain this long would repeat a block
    intro chain n hdistinct _ hroom
    have := hdistinct.length_le
    omega
  | succ fuel ih =>
    intro chain n hdistinct hlinked hroom
    have hlast : (chain ++ [n]).getLast? = some n := by simp
    rw [name]
    split_ifs with hmem
    · exact Meets.throw ⟨List.prefix_rfl, hlinked, hlast, by simpa [IsReason] using hmem⟩
    · have hn : n ∉ chain := by simpa using hmem
      refine Meets.bind Meets.get fun memo hmemo => ?_
      cases hlookup : memo.lookup n with
      | some t => exact Meets.pure (hmemo n t hlookup)
      | none =>
        dsimp only
        cases hb : o.findBlock? n with
        | none => exact Meets.throw ⟨List.prefix_rfl, hlinked, hlast, hb⟩
        | some b =>
          have hroom' : o.blocks.length < (chain ++ [n]).length + fuel := by
            rw [List.length_append, List.length_singleton]
            omega
          have hbody := body_meets chain hb fun v hv =>
            ih (chain ++ [n]) v (hdistinct.append hn hb)
              (Outline.isChain_concat chain hlinked hv) hroom'
          refine Meets.bind hbody fun t ht => ?_
          exact Meets.bind (Meets.modify fun _ hmemo => hmemo.cons ht) fun _ _ => Meets.pure ht

/-- **Expansion of a block** gives what its name stands for, or an error whose chain shows why it
stands for nothing. -/
theorem block_meets {n : Text} {b : Block} (hb : o.findBlock? n = some b) :
    Meets o (block o b) (o.StandsFor n) (Blames o [n]) := by
  have hname := Outline.name_of_findBlock? hb
  rw [block, hname]
  refine body_meets [] hb fun v hv => ?_
  refine name_meets _ _ _ (.singleton hb) (Outline.isChain_concat [] (.singleton n) hv) ?_
  rw [Substitution.depth, List.length_singleton]
  omega

/-! ## The bound on chains -/

/-- The bound on the length of chains makes no difference, because no chain is that long. -/
theorem name_add_fuel (k fuel : ℕ) : ∀ {chain : List Text}, o.Distinct chain →
    o.blocks.length < chain.length + fuel → name o (fuel + k) chain = name o fuel chain := by
  induction fuel with
  | zero =>
    intro chain hdistinct hroom
    have := hdistinct.length_le
    omega
  | succ fuel ih =>
    intro chain hdistinct hroom
    funext n
    rw [show fuel + 1 + k = fuel + k + 1 by omega, name, name]
    split_ifs with hmem
    · rfl
    · have hn : n ∉ chain := by simpa using hmem
      congr 1
      funext memo
      cases memo.lookup n with
      | some t => rfl
      | none =>
        dsimp only
        cases hb : o.findBlock? n with
        | none => rfl
        | some b =>
          have hroom' : o.blocks.length < (chain ++ [n]).length + fuel := by
            rw [List.length_append, List.length_singleton]
            omega
          dsimp only
          rw [ih (hdistinct.append hn hb) hroom']

/-- A block is expanded alike under every larger bound. -/
theorem block_eq_of_depth_le {n : Text} {b : Block} (hb : o.findBlock? n = some b) {fuel : ℕ}
    (hfuel : Substitution.depth o ≤ fuel) :
    Macro.expandBody (name o fuel [b.name]) b.body = block o b := by
  have hname := Outline.name_of_findBlock? hb
  obtain ⟨k, rfl⟩ := Nat.exists_eq_add_of_le hfuel
  rw [block, hname, name_add_fuel k _ (.singleton hb)]
  rw [Substitution.depth, List.length_singleton]
  omega

end Expander

/-- The error of an expansion shows a chain at fault. -/
theorem Expander.Blames.fault {o : Outline} {n : Text} {e : ExpansionError}
    (h : Expander.Blames o [n] e) : o.Fault n e.chain := by
  obtain ⟨rest, hrest⟩ := h.prefix_chain
  refine ⟨by rw [← hrest]; rfl, h.linked, e.name, h.last, ?_⟩
  have hreason := h.reason
  cases e with
  | cycle m chain => exact .inr hreason
  | unknown m chain => exact .inl hreason

/-- **Macro expansion.**  The first block of a name is expanded exactly when everything reached from
the name is defined and on no cycle.  The result is what the name stands for, which is what plain
substitution gives.  An error shows a chain of references from the name to one that is undefined or
met before, and the bound on the length of chains plays no part. -/
theorem expandBlock_correct {t n : Text} {o : Outline} {b : Block} (ho : Outline.parse t = .ok o)
    (hb : o.findBlock? n = some b) :
    ((∃ r, expandBlock t n = .ok r) ↔ o.Expandable n) ∧
      (∀ r, expandBlock t n = .ok r ↔ o.StandsFor n r) ∧
      (∀ r, expandBlock t n = .ok r → Substitution.block o b = .ok r) ∧
      (∀ e, expandBlock t n = .error e →
        ∃ x, e = .expansion x ∧ o.Fault n x.chain ∧ x.chain.getLast? = some x.name) ∧
      ∀ fuel, Substitution.depth o ≤ fuel →
        Macro.expandBody (Expander.name o fuel [b.name]) b.body = Expander.block o b := by
  have hplain := fun r => Substitution.block_of_standsFor hb (t := r)
  obtain ⟨-, hok, herror⟩ := Expander.block_meets hb [] fun m u hm => by cases hm
  have hbound : ∀ fuel, Substitution.depth o ≤ fuel →
      Macro.expandBody (Expander.name o fuel [b.name]) b.body = Expander.block o b :=
    fun _ => Expander.block_eq_of_depth_le hb
  cases heval : (Expander.block o b).eval with
  | ok source =>
    have hstands := hok source heval
    have hexpand : expandBlock t n = .ok source := by simp only [expandBlock, ho, hb, heval]
    rw [hexpand]
    refine ⟨⟨fun _ => hstands.expandable, fun _ => ⟨source, rfl⟩⟩, ?_, ?_, ?_, hbound⟩
    · intro r
      constructor
      · intro h; cases h; exact hstands
      · intro h; rw [hstands.unique h]
    · intro r h; cases h; exact hplain source hstands
    · intro e h; cases h
  | error x =>
    have hblames := herror x heval
    have hnot := hblames.fault.not_expandable
    have hexpand : expandBlock t n = .error (.expansion x) := by
      simp only [expandBlock, ho, hb, heval]
    rw [hexpand]
    refine ⟨⟨fun ⟨r, h⟩ => (by cases h), fun h => absurd h hnot⟩, ?_, ?_, ?_, hbound⟩
    · intro r
      constructor
      · intro h; cases h
      · intro h; exact absurd h.expandable hnot
    · intro r h; cases h
    · intro e h; cases h; exact ⟨x, rfl, hblames.fault, hblames.last⟩

/-- An indented reference with another one behind it on its line. -/
theorem expandBlock_correct_indented :
    let t := ("```sh a\nif x; then\n  @[b] # @[c]\nfi\n```\n\n```sh b\nl1\n@[c]\n```\n\n" ++
      "```sh c\nl2\n```\n").toList
    let info (name : Text) : Info := ⟨"sh".toList, some name, none, [], [], false, false⟩
    let a : Block := ⟨1, 5, "```".toList, info ['a'],
      ["if x; then".toList, "  @[b] # @[c]".toList, "fi".toList]⟩
    let b : Block := ⟨7, 10, "```".toList, info ['b'], ["l1".toList, "@[c]".toList]⟩
    let c : Block := ⟨12, 14, "```".toList, info ['c'], ["l2".toList]⟩
    let o : Outline := ⟨14, [.block a, .block b, .block c], [⟨1, [], .implicit⟩]⟩
    let r := "if x; then\n  l1\n  l2 # l2\nfi".toList
    Outline.parse t = .ok o ∧ o.findBlock? ['a'] = some a ∧ expandBlock t ['a'] = .ok r ∧
      o.Expandable ['a'] ∧ o.StandsFor ['a'] r := by
  intro t info a b c o r
  have ho : Outline.parse t = .ok o := by decide +kernel
  have hb : o.findBlock? ['a'] = some a := by decide +kernel
  have hr : expandBlock t ['a'] = .ok r := by decide +kernel
  obtain ⟨hiff, hstands, -⟩ := expandBlock_correct ho hb
  exact ⟨ho, hb, hr, hiff.mp ⟨r, hr⟩, (hstands r).mp hr⟩

end Literate

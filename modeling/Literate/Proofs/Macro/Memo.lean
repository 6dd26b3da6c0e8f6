import Mathlib
import Literate.Proofs.Macro.Failure
import Literate.Proofs.Macro.Source

/-!
# A memo shared between blocks

An expander that has expanded other blocks gives what a fresh one gives, text or error, but for one
case.  A block whose name belongs to an earlier block is expanded below that name, as if it were the
earlier block: a reference in it that leads to the name is a cycle for a fresh expander.  When a
name on the way to it is in the memo, the memo answers and the cycle is never seen.

* `Expander.Reached`: the memos an expander can have between blocks.
* `Expander.name_eq`: step by step with plain substitution, as long as no name on the way to an
  error was in the memo.
* `Expander.name_failsOnly`: no name on the way to an error was in the memo.
* `Expander.block_eq_eval_iff`: the shared memo makes no difference exactly when no name of the memo
  is on the way of a fresh expander back to the name of the block.
* `Expander.block_eq_eval`: it makes none unless the block leads to a namesake.
-/

namespace Literate

open Text Relation

namespace Expander

variable {α β : Type} {o : Outline}

/-- The memos of an expander that started without one and has expanded blocks, whether or not it
could. -/
inductive Reached (o : Outline) : Memo → Prop
  | start : Reached o []
  | block {memo : Memo} (b : Block) (h : Reached o memo) :
    Reached o ((Expander.block o b).run.run memo).2

/-- Between blocks a memo holds what names stand for. -/
theorem Reached.sound {memo : Memo} (h : Reached o memo) : Sound o memo := by
  induction h with
  | start => exact sound_nil
  | block b _ ih => exact (block_gives b _ ih).1

/-! ## Computations with a memo -/

/-- The result is no error but one with `E`. -/
def FailsOnly (E : ExpansionError → Prop) (res : Except ExpansionError α) : Prop :=
  ∀ e, res = .error e → E e

theorem run_get_bind (f : Memo → Expander α) (memo : Memo) :
    (get >>= f).run.run memo = (f memo).run.run memo := rfl

variable {I : Memo → Prop} {E : ExpansionError → Prop}

theorem failsOnly_ok (a : α) : FailsOnly E (.ok a) := by
  intro e h
  cases h

theorem failsOnly_error {e : ExpansionError} (h : E e) :
    FailsOnly E (.error e : Except ExpansionError α) := by
  intro e' h'
  cases h'
  exact h

theorem FailsOnly.of_bind {p : Except ExpansionError α} {q : α → Except ExpansionError β}
    (h : FailsOnly E (p >>= q)) : FailsOnly E p := by
  rintro e rfl
  exact h e rfl

theorem FailsOnly.of_bind_ok {p : Except ExpansionError α} {q : α → Except ExpansionError β} {a : α}
    (h : FailsOnly E (p >>= q)) (ha : p = .ok a) : FailsOnly E (q a) := by
  subst ha
  exact h

namespace Keeps

variable {x : Expander α} {f : α → Expander β}

/-! ### The result of a computation without memo -/

theorem bind_eq {p : Except ExpansionError α} {q : α → Except ExpansionError β}
    (hx : Keeps I x (· = p)) (hf : ∀ a, p = .ok a → Keeps I (f a) (· = q a)) :
    Keeps I (x >>= f) (· = p >>= q) := by
  refine hx.bind (fun a ha => ?_) fun e he => ?_
  · rw [← ha]
    exact hf a ha.symm
  · rw [← he]
    rfl

theorem mapM_eq {p : α → Except ExpansionError β} {f : α → Expander β} {xs : List α}
    (hfails : FailsOnly E (xs.mapM p))
    (h : ∀ a ∈ xs, FailsOnly E (p a) → Keeps I (f a) (· = p a)) :
    Keeps I (xs.mapM f) (· = xs.mapM p) := by
  induction xs with
  | nil =>
    rw [List.mapM_nil, List.mapM_nil]
    exact pure rfl
  | cons a xs ih =>
    rw [List.mapM_cons] at hfails ⊢
    rw [List.mapM_cons]
    refine bind_eq (h a List.mem_cons_self hfails.of_bind) fun b hb => ?_
    refine bind_eq (ih (hfails.of_bind_ok hb).of_bind fun c hc => h c (List.mem_cons_of_mem _ hc))
      fun bs _ => pure rfl

theorem expandBody_eq {p : Text → Except ExpansionError Text} {resolve : Text → Expander Text}
    {body : List Line} (hfails : FailsOnly E (Macro.expandBody p body))
    (h : ∀ l ∈ body, ∀ v ∈ Reference.names l, FailsOnly E (p v) →
      Keeps I (resolve v) (· = p v)) :
    Keeps I (Macro.expandBody resolve body) (· = Macro.expandBody p body) := by
  refine bind_eq (mapM_eq (FailsOnly.of_bind hfails) fun l hl hline => ?_) fun _ _ => pure rfl
  refine bind_eq (mapM_eq (FailsOnly.of_bind hline) fun r hr hname => ?_) fun _ _ => pure rfl
  exact h l hl r.1 (List.mem_map_of_mem hr) hname

/-! ### The errors of a computation -/

theorem bind_failsOnly (hx : Keeps I x (FailsOnly E)) (hf : ∀ a, Keeps I (f a) (FailsOnly E)) :
    Keeps I (x >>= f) (FailsOnly E) :=
  hx.bind (fun a _ => hf a) fun _ he => failsOnly_error (he _ rfl)

theorem mapM_failsOnly {f : α → Expander β} {xs : List α}
    (h : ∀ a ∈ xs, Keeps I (f a) (FailsOnly E)) : Keeps I (xs.mapM f) (FailsOnly E) := by
  induction xs with
  | nil =>
    rw [List.mapM_nil]
    exact pure (failsOnly_ok _)
  | cons a xs ih =>
    rw [List.mapM_cons]
    refine bind_failsOnly (h a List.mem_cons_self) fun b => ?_
    refine bind_failsOnly (ih fun c hc => h c (List.mem_cons_of_mem _ hc)) fun bs => ?_
    exact pure (failsOnly_ok _)

theorem expandBody_failsOnly {resolve : Text → Expander Text} {body : List Line}
    (h : ∀ l ∈ body, ∀ v ∈ Reference.names l, Keeps I (resolve v) (FailsOnly E)) :
    Keeps I (Macro.expandBody resolve body) (FailsOnly E) := by
  refine bind_failsOnly (mapM_failsOnly fun l hl => ?_) fun _ => pure (failsOnly_ok _)
  refine bind_failsOnly (mapM_failsOnly fun r hr => ?_) fun _ => pure (failsOnly_ok _)
  exact h l hl r.1 (List.mem_map_of_mem hr)

end Keeps

/-! ## In step with plain substitution -/

/-- Every name in the memo stands for its text; it was in `given` or leads nowhere near `r`. -/
def Settled (o : Outline) (r : Text) (given memo : Memo) : Prop :=
  ∀ n t, memo.lookup n = some t →
    o.StandsFor n t ∧ ((given.lookup n).isSome ∨ ¬ReflTransGen o.RefersTo n r)

/-- No name on the way to the error was in `given`. -/
def Unseen (given : Memo) (e : ExpansionError) : Prop := ∀ v ∈ e.between, given.lookup v = none

section

variable {r n t : Text} {given memo : Memo} {vs : List Text} {fuel : ℕ}

theorem Settled.cons (h : Settled o r given memo) (hn : o.StandsFor n t)
    (haway : ¬ReflTransGen o.RefersTo n r) : Settled o r given ((n, t) :: memo) := by
  intro m u hm
  rcases lookup_cons_inv hm with ⟨rfl, rfl⟩ | hm
  · exact ⟨hn, .inr haway⟩
  · exact h m u hm

/-- The memo answers what plain substitution gives. -/
theorem Settled.name_eq (h : Settled o r given memo) (hlookup : memo.lookup n = some t)
    (hdistinct : o.Distinct (r :: vs)) (hlinked : (vs ++ [n]).IsChain o.RefersTo)
    (hroom : o.blocks.length < (r :: vs).length + fuel) (hn : n ∉ r :: vs)
    (hfails : FailsOnly (Unseen given) (Substitution.name o fuel (r :: vs) n)) :
    Substitution.name o fuel (r :: vs) n = .ok t := by
  obtain ⟨hstands, hgiven | haway⟩ := h n t hlookup
  · cases hname : Substitution.name o fuel (r :: vs) n with
    | ok u => rw [(Substitution.name_ok_inv hname).1.unique hstands]
    | error e =>
      exfalso
      obtain ⟨path, hpath⟩ := Substitution.name_strays hdistinct hroom hname
      have hway := hpath.mem_dropLast_of_standsFor hn hstands
      have hnone := hfails e hname n (hpath.mem_between hway)
      rw [hnone] at hgiven
      cases hgiven
  · refine Substitution.name_of_standsFor hstands hdistinct hroom fun m hm hreach => ?_
    rcases List.mem_cons.mp hm with rfl | hm
    · exact haway hreach
    · -- a name of the chain that is reached again lies on a cycle
      obtain ⟨front, back, rfl⟩ := List.append_of_mem hm
      rw [List.append_assoc, List.cons_append] at hlinked
      have hcycle := Outline.transGen_of_isChain hlinked.right_of_append (m := n) (by simp)
      exact hstands.expandable.acyclic n .refl (hcycle.trans_right hreach)

/-- **In step with plain substitution.**  A name is expanded to the text or the error that plain
substitution gives, when no name on the way to an error was in the memo. -/
theorem name_eq (fuel : ℕ) : ∀ (vs : List Text) (n : Text), o.Distinct (r :: vs) →
    (vs ++ [n]).IsChain o.RefersTo → o.blocks.length < (r :: vs).length + fuel →
      FailsOnly (Unseen given) (Substitution.name o fuel (r :: vs) n) →
        Keeps (Settled o r given) (name o fuel (r :: vs) n)
          (· = Substitution.name o fuel (r :: vs) n) := by
  induction fuel with
  | zero =>
    -- a chain this long would repeat a block
    intro vs n hdistinct _ hroom
    have := hdistinct.length_le
    omega
  | succ fuel ih =>
    intro vs n hdistinct hlinked hroom hfails memo hmemo
    by_cases hmem : (r :: vs).contains n = true
    · rw [name, Substitution.name, if_pos hmem, if_pos hmem]
      exact ⟨hmemo, rfl⟩
    have hn : n ∉ r :: vs := by simpa using hmem
    rw [name, if_neg hmem, run_get_bind]
    cases hlookup : memo.lookup n with
    | some t =>
      exact ⟨hmemo, (hmemo.name_eq hlookup hdistinct hlinked hroom hn hfails).symm⟩
    | none =>
      dsimp only
      rw [Substitution.name, if_neg hmem] at hfails ⊢
      cases hb : o.findBlock? n with
      | none => exact ⟨hmemo, rfl⟩
      | some b =>
        rw [hb] at hfails
        dsimp only at hfails ⊢
        have hroom' : o.blocks.length < (r :: (vs ++ [n])).length + fuel := by
          simp only [List.length_cons, List.length_append, List.length_nil] at hroom ⊢
          omega
        have hbody : Keeps (Settled o r given)
            (Macro.expandBody (name o fuel (r :: (vs ++ [n]))) b.body)
            (· = Macro.expandBody (Substitution.name o fuel (r :: (vs ++ [n]))) b.body) :=
          Keeps.expandBody_eq hfails fun l hl v hv hname =>
            ih (vs ++ [n]) v (hdistinct.append hn hb)
              (Outline.isChain_concat vs hlinked ((Outline.refersTo_iff hb).mpr ⟨l, hl, hv⟩))
              hroom' hname
        have hstep := hbody.bind_eq (q := fun t => pure t)
          (f := fun t => do modify ((n, t) :: ·); pure t) fun t ht memo hmemo => by
            have hname : Substitution.name o (fuel + 1) (r :: vs) n = .ok t := by
              rw [Substitution.name, if_neg hmem, hb]
              exact ht
            obtain ⟨hstands, haway⟩ := Substitution.name_ok_inv hname
            exact ⟨hmemo.cons hstands (haway r List.mem_cons_self), rfl⟩
        rw [bind_pure] at hstep
        exact hstep memo hmemo

/-- **No name on the way to an error was in the memo.** -/
theorem name_failsOnly (given : Memo) (fuel : ℕ) : ∀ (vs : List Text) (n : Text),
    (∀ v ∈ vs, given.lookup v = none) →
      Keeps (fun memo => ∀ v, memo.lookup v = none → given.lookup v = none)
        (name o fuel (r :: vs) n) (FailsOnly (Unseen given)) := by
  have hstop : ∀ {vs : List Text} {n : Text} {e : ExpansionError}, e.chain = r :: vs ++ [n] →
      (∀ v ∈ vs, given.lookup v = none) → Unseen given e := by
    intro vs n e hchain hvs v hv
    rw [ExpansionError.between, hchain, List.cons_append, List.tail_cons,
      List.dropLast_concat] at hv
    exact hvs v hv
  induction fuel with
  | zero => exact fun vs n hvs memo hmemo => ⟨hmemo, failsOnly_error (hstop rfl hvs)⟩
  | succ fuel ih =>
    intro vs n hvs memo hmemo
    by_cases hmem : (r :: vs).contains n = true
    · rw [name, if_pos hmem]
      exact ⟨hmemo, failsOnly_error (hstop rfl hvs)⟩
    rw [name, if_neg hmem, run_get_bind]
    cases hlookup : memo.lookup n with
    | some t => exact ⟨hmemo, failsOnly_ok t⟩
    | none =>
      dsimp only
      cases hb : o.findBlock? n with
      | none => exact ⟨hmemo, failsOnly_error (hstop rfl hvs)⟩
      | some b =>
        have hvs' : ∀ v ∈ vs ++ [n], given.lookup v = none :=
          List.forall_mem_append.mpr ⟨hvs, List.forall_mem_singleton.mpr (hmemo n hlookup)⟩
        refine (Keeps.expandBody_failsOnly fun l hl v hv => ih (vs ++ [n]) v hvs').bind_failsOnly
          (fun t memo hmemo => ⟨fun v hv => ?_, failsOnly_ok t⟩) memo hmemo
        refine hmemo v ?_
        have hv : List.lookup v ((n, t) :: memo) = none := hv
        rw [List.lookup_cons] at hv
        split at hv
        · cases hv
        · exact hv

end

/-! ## Blocks -/

variable {b : Block} {memo : Memo}

/-- A block is expanded as plain substitution expands it, when no name on the way to an error was in
the memo. -/
theorem block_eq (hb : b ∈ o.blocks) (hmemo : Sound o memo)
    (hfails : FailsOnly (Unseen memo) (Substitution.block o b)) :
    ((block o b).run.run memo).1 = Substitution.block o b := by
  obtain ⟨c, hc⟩ := Outline.exists_findBlock? (List.mem_map_of_mem hb)
  have hstep : Keeps (Settled o b.name memo) (block o b) (· = Substitution.block o b) :=
    Keeps.expandBody_eq hfails fun l hl v hv hname =>
      name_eq _ [] v (.singleton hc) (.singleton v)
        (by rw [Substitution.depth, List.length_singleton]; omega) hname
  exact (hstep memo fun n t h => ⟨hmemo n t h, .inl (by rw [h]; rfl)⟩).2

/-- A fresh expander is plain substitution. -/
theorem eval_block (hb : b ∈ o.blocks) : (block o b).eval = Substitution.block o b := by
  exact block_eq hb sound_nil fun e _ v _ => rfl

/-- A fresh expander comes back to the name of the block, and a name on the way is in the memo. -/
def Hides (o : Outline) (b : Block) (memo : Memo) : Prop :=
  ∃ chain, (block o b).eval = .error (.cycle b.name chain) ∧
    ∃ v ∈ chain.tail.dropLast, (memo.lookup v).isSome

/-- **A memo makes no difference** exactly when it hides no cycle. -/
theorem block_eq_eval_iff (hb : b ∈ o.blocks) (hmemo : Sound o memo) :
    ((block o b).run.run memo).1 = (block o b).eval ↔ ¬Hides o b memo := by
  constructor
  · rintro heq ⟨chain, herror, v, hv, hsome⟩
    have hfails : Keeps (fun m => ∀ v, m.lookup v = none → memo.lookup v = none) (block o b)
        (FailsOnly (Unseen memo)) :=
      Keeps.expandBody_failsOnly fun l hl v hv => name_failsOnly memo _ [] v (by simp)
    have hnone := (hfails memo fun _ h => h).2 _ (heq.trans herror) v hv
    rw [hnone] at hsome
    cases hsome
  · intro hhides
    rw [eval_block hb]
    refine block_eq hb hmemo fun e he v hv => ?_
    by_contra hsome
    obtain ⟨t, ht⟩ := Option.ne_none_iff_exists'.mp hsome
    obtain ⟨_, _, _, _, path, hpath⟩ := Substitution.block_strays hb he
    have hway : v ∈ path.dropLast := by
      rwa [ExpansionError.between, hpath.chain_eq] at hv
    have hcycle := hpath.eq_cycle hway (hmemo v t ht)
    refine hhides ⟨b.name :: path, ?_, v, hway, by rw [ht]; rfl⟩
    rw [eval_block hb, he, hcycle]

/-- The first block of a name hides nothing. -/
theorem not_hides_of_findBlock? (hb : o.findBlock? b.name = some b) (hmemo : Sound o memo) :
    ¬Hides o b memo := by
  rintro ⟨chain, herror, v, hv, hsome⟩
  have hmem := Outline.mem_of_findBlock? hb
  obtain ⟨t, ht⟩ := Option.isSome_iff_exists.mp hsome
  rw [eval_block hmem] at herror
  obtain ⟨l, hl, u, hu, path, hpath⟩ := Substitution.block_strays hmem herror
  have hchain : chain = b.name :: path := hpath.chain_eq
  rw [hchain, List.tail_cons] at hv
  -- the way leads from the name to one that can be expanded, and back
  obtain ⟨rest, rfl⟩ := List.head?_eq_some_iff.mp hpath.head
  have href : o.RefersTo b.name u := (Outline.refersTo_iff hb).mpr ⟨l, hl, hu⟩
  have hto := Outline.transGen_of_isChain (hpath.linked.cons_cons href)
    (List.mem_of_mem_dropLast hv)
  exact (hmemo v t ht).expandable.acyclic v .refl ((hpath.transGen hv).trans hto)

/-- The block has the name of an earlier block, and a reference in it leads there. -/
def LeadsToNamesake (o : Outline) (b : Block) : Prop :=
  o.findBlock? b.name ≠ some b ∧ ∃ chain, (block o b).eval = .error (.cycle b.name chain)

/-- A memo makes no difference to a block that does not lead to a namesake. -/
theorem block_eq_eval (hb : b ∈ o.blocks) (hmemo : Sound o memo) (h : ¬LeadsToNamesake o b) :
    ((block o b).run.run memo).1 = (block o b).eval := by
  refine (block_eq_eval_iff hb hmemo).mpr fun hhides => ?_
  by_cases hfirst : o.findBlock? b.name = some b
  · exact not_hides_of_findBlock? hfirst hmemo hhides
  · obtain ⟨chain, herror, -⟩ := hhides
    exact h ⟨hfirst, chain, herror⟩

end Expander

end Literate

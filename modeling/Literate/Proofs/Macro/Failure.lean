import Mathlib
import Literate.Proofs.Macro.Expansion

/-!
# How plain substitution ends

Plain substitution gives a text for a name when the name stands for it and leads back to no name of
the chain it is met below.  Otherwise it fails at the end of a path of references, which starts at
the name and leads to one that is undefined or that was met before.

* `Substitution.expandBody_cases`: a body is expanded, or fails with its first reference that fails.
* `Substitution.name_ok_inv`: what a text given for a name says of the name.
* `Substitution.Strays`, `Substitution.name_strays`, `Substitution.block_strays`: every error shows
  the path that led to it.
* `Substitution.Strays.mem_dropLast_of_standsFor`, `Substitution.Strays.eq_cycle`: when a name on
  the way stands for a text, the path goes on, back to the name of the block it started from.
-/

namespace Literate

open Text Relation

/-- The names between the block and the name at fault. -/
def ExpansionError.between (e : ExpansionError) : List Text := e.chain.tail.dropLast

namespace Substitution

variable {o : Outline}

/-! ## Bodies -/

theorem mapM_cases {α β : Type} (f : α → Except ExpansionError β) (xs : List α) :
    (∀ a ∈ xs, ∃ b, f a = .ok b) ∨ ∃ a ∈ xs, ∃ e, f a = .error e ∧ xs.mapM f = .error e := by
  induction xs with
  | nil => exact .inl (by simp)
  | cons a xs ih =>
    rw [List.mapM_cons]
    cases ha : f a with
    | error e => exact .inr ⟨a, List.mem_cons_self, e, ha, rfl⟩
    | ok b =>
      rcases ih with hok | ⟨c, hc, e, he, herror⟩
      · exact .inl (List.forall_mem_cons.mpr ⟨⟨b, ha⟩, hok⟩)
      · rw [herror]
        exact .inr ⟨c, List.mem_cons_of_mem _ hc, e, he, rfl⟩

variable (resolve : Text → Except ExpansionError Text)

theorem expandLine_cases (l : Line) :
    ((∀ v ∈ Reference.names l, ∃ u, resolve v = .ok u) ∧
        ∃ ls, Macro.expandLine resolve l = .ok ls) ∨
      ∃ v ∈ Reference.names l, ∃ e, resolve v = .error e ∧
        Macro.expandLine resolve l = .error e := by
  rw [Macro.expandLine]
  dsimp only
  rcases mapM_cases (fun p : Text × Text => resolve p.1) (Reference.segments l).rest with
    hok | ⟨p, hp, e, he, herror⟩
  · left
    choose! σ hσ using hok
    rw [mapM_ok hσ]
    refine ⟨fun v hv => ?_, _, rfl⟩
    obtain ⟨p, hp, rfl⟩ := List.mem_map.mp hv
    exact ⟨σ p, hσ p hp⟩
  · rw [herror]
    exact .inr ⟨p.1, List.mem_map_of_mem hp, e, he, rfl⟩

/-- A body is expanded when all its references are; else it fails with one that does. -/
theorem expandBody_cases (body : List Line) :
    (∀ l ∈ body, ∀ v ∈ Reference.names l, ∃ u, resolve v = .ok u) ∨
      ∃ l ∈ body, ∃ v ∈ Reference.names l, ∃ e, resolve v = .error e ∧
        Macro.expandBody resolve body = .error e := by
  rcases mapM_cases (Macro.expandLine resolve) body with hok | ⟨l, hl, e, he, herror⟩
  · refine .inl fun l hl => ?_
    obtain ⟨ls, hls⟩ := hok l hl
    rcases expandLine_cases resolve l with ⟨hnames, -⟩ | ⟨v, hv, e, -, herror⟩
    · exact hnames
    · rw [hls] at herror
      cases herror
  · rcases expandLine_cases resolve l with ⟨-, ls, hls⟩ | ⟨v, hv, e', he', hline⟩
    · rw [he] at hls
      cases hls
    · rw [he] at hline
      cases hline
      rw [Macro.expandBody, herror]
      exact .inr ⟨l, hl, v, hv, e, he', rfl⟩

variable {resolve}

/-- A body that is expanded to a text. -/
theorem expandBody_ok_inv {σ : Text → Text} {body : List Line} {t : Text}
    (hσ : ∀ v u, resolve v = .ok u → σ v = u) (h : Macro.expandBody resolve body = .ok t) :
    (∀ l ∈ body, ∀ v ∈ Reference.names l, resolve v = .ok (σ v)) ∧
      Macro.substituteBody σ body = t := by
  rcases expandBody_cases resolve body with hok | ⟨l, hl, v, hv, e, -, herror⟩
  · have hnames : ∀ l ∈ body, ∀ v ∈ Reference.names l, resolve v = .ok (σ v) := by
      intro l hl v hv
      obtain ⟨u, hu⟩ := hok l hl v hv
      rw [hσ v u hu, hu]
    rw [expandBody_ok hnames] at h
    exact ⟨hnames, Except.ok.inj h⟩
  · rw [herror] at h
    cases h

theorem expandBody_error_inv {body : List Line} {e : ExpansionError}
    (h : Macro.expandBody resolve body = .error e) :
    ∃ l ∈ body, ∃ v ∈ Reference.names l, resolve v = .error e := by
  rcases expandBody_cases resolve body with hok | ⟨l, hl, v, hv, e', he', herror⟩
  · have hnames : ∀ l ∈ body, ∀ v ∈ Reference.names l,
        resolve v = .ok ((resolve v).toOption.getD []) := by
      intro l hl v hv
      obtain ⟨u, hu⟩ := hok l hl v hv
      rw [hu]
      rfl
    rw [expandBody_ok hnames] at h
    cases h
  · rw [herror] at h
    cases h
    exact ⟨l, hl, v, hv, he'⟩

/-! ## Texts -/

/-- **A text given for a name** is what the name stands for, and the name leads back to no name of
the chain. -/
theorem name_ok_inv {fuel : ℕ} {chain : List Text} {n t : Text}
    (h : name o fuel chain n = .ok t) :
    o.StandsFor n t ∧ ∀ m ∈ chain, ¬ReflTransGen o.RefersTo n m := by
  induction fuel generalizing chain n t with
  | zero => cases h
  | succ fuel ih =>
    rw [name] at h
    split_ifs at h with hmem
    cases hb : o.findBlock? n with
    | none =>
      rw [hb] at h
      cases h
    | some b =>
      rw [hb] at h
      obtain ⟨σ, hσ⟩ := Outline.StandsFor.exists_substitution o
      obtain ⟨hrefs, rfl⟩ := expandBody_ok_inv (fun v u hu => hσ v u (ih hu).1) h
      have href : ∀ v, o.RefersTo n v → name o fuel (chain ++ [n]) v = .ok (σ v) := by
        intro v hv
        obtain ⟨l, hl, hmem⟩ := (Outline.refersTo_iff hb).mp hv
        exact hrefs l hl v hmem
      refine ⟨.intro σ hb fun v hv => (ih (href v hv)).1, fun m hm hreach => ?_⟩
      rcases hreach.cases_head with rfl | ⟨v, hv, hreach⟩
      · exact hmem (by simpa using hm)
      · exact (ih (href v hv)).2 m (List.mem_append_left _ hm) hreach

/-! ## Errors -/

/-- An error whose chain goes on from the given one along a path of references, which starts at the
name and ends at the one at fault. -/
structure Strays (o : Outline) (chain : List Text) (n : Text) (path : List Text)
    (e : ExpansionError) : Prop where
  chain_eq : e.chain = chain ++ path
  head : path.head? = some n
  linked : path.IsChain o.RefersTo
  last : path.getLast? = some e.name
  reason : Expander.IsReason o e

theorem strays_stop {chain : List Text} {n : Text} {e : ExpansionError}
    (hchain : e.chain = chain ++ [n]) (hname : e.name = n) (hreason : Expander.IsReason o e) :
    Strays o chain n [n] e :=
  ⟨hchain, rfl, .singleton n, by rw [hname]; rfl, hreason⟩

theorem Strays.cons {chain path : List Text} {n v : Text} {e : ExpansionError}
    (h : Strays o (chain ++ [n]) v path e) (hv : o.RefersTo n v) :
    Strays o chain n (n :: path) e := by
  obtain ⟨rest, rfl⟩ := List.head?_eq_some_iff.mp h.head
  refine ⟨by rw [h.chain_eq]; simp, rfl, h.linked.cons_cons hv, ?_, h.reason⟩
  rw [List.getLast?_cons_cons]
  exact h.last

/-- **An error shows the path that led to it.** -/
theorem name_strays {fuel : ℕ} {chain : List Text} {n : Text} {e : ExpansionError}
    (hdistinct : o.Distinct chain) (hroom : o.blocks.length < chain.length + fuel)
    (h : name o fuel chain n = .error e) : ∃ path, Strays o chain n path e := by
  induction fuel generalizing chain n with
  | zero =>
    have := hdistinct.length_le
    omega
  | succ fuel ih =>
    rw [name] at h
    split_ifs at h with hmem
    · cases h
      have hreason : n ∈ (chain ++ [n]).dropLast := by simpa using hmem
      exact ⟨[n], strays_stop rfl rfl hreason⟩
    · have hn : n ∉ chain := by simpa using hmem
      cases hb : o.findBlock? n with
      | none =>
        rw [hb] at h
        cases h
        exact ⟨[n], strays_stop rfl rfl hb⟩
      | some b =>
        rw [hb] at h
        obtain ⟨l, hl, v, hv, herror⟩ := expandBody_error_inv h
        obtain ⟨path, hpath⟩ := ih (hdistinct.append hn hb)
          (by rw [List.length_append, List.length_singleton]; omega) herror
        exact ⟨n :: path, hpath.cons ((Outline.refersTo_iff hb).mpr ⟨l, hl, hv⟩)⟩

/-- The error of a block shows a path that starts at a reference in it. -/
theorem block_strays {b : Block} (hb : b ∈ o.blocks) {e : ExpansionError}
    (h : block o b = .error e) :
    ∃ l ∈ b.body, ∃ v ∈ Reference.names l, ∃ path, Strays o [b.name] v path e := by
  obtain ⟨l, hl, v, hv, herror⟩ := expandBody_error_inv h
  obtain ⟨c, hc⟩ := Outline.exists_findBlock? (List.mem_map_of_mem hb)
  refine ⟨l, hl, v, hv, name_strays (.singleton hc) ?_ herror⟩
  rw [depth, List.length_singleton]
  omega

namespace Strays

variable {chain path : List Text} {n v r : Text} {e : ExpansionError}

/-- Every name on the way leads to the one at fault. -/
theorem transGen (h : Strays o chain n path e) (hv : v ∈ path.dropLast) :
    TransGen o.RefersTo v e.name := by
  obtain ⟨front, back, hsplit⟩ := List.append_of_mem hv
  have hpath : path = front ++ v :: (back ++ [e.name]) := by
    rw [← List.dropLast_append_getLast? e.name h.last, hsplit]
    simp
  have hlinked := h.linked
  rw [hpath] at hlinked
  exact Outline.transGen_of_isChain hlinked.right_of_append (by simp)

theorem mem_between {vs : List Text} (h : Strays o (r :: vs) n path e) (hv : v ∈ path.dropLast) :
    v ∈ e.between := by
  have hne : path ≠ [] := List.ne_nil_of_mem (List.mem_of_mem_dropLast hv)
  rw [ExpansionError.between, h.chain_eq, List.cons_append, List.tail_cons,
    List.dropLast_append_of_ne_nil hne]
  exact List.mem_append_right vs hv

/-- A name that stands for a text is not at fault itself. -/
theorem mem_dropLast_of_standsFor {t : Text} (h : Strays o chain n path e) (hn : n ∉ chain)
    (hstands : o.StandsFor n t) : n ∈ path.dropLast := by
  obtain ⟨rest, rfl⟩ := List.head?_eq_some_iff.mp h.head
  cases rest with
  | cons next rest => exact List.mem_cons_self
  | nil =>
    have hname : n = e.name := Option.some.inj h.last
    have hreason := h.reason
    have hchain := h.chain_eq
    cases e with
    | unknown m chain' =>
      obtain ⟨b, hb⟩ := hstands.expandable.defined n .refl
      have hnone : o.findBlock? m = none := hreason
      rw [← show n = m from hname, hb] at hnone
      cases hnone
    | cycle m chain' =>
      have hmem : m ∈ chain'.dropLast := hreason
      rw [show chain' = chain ++ [n] from hchain, List.dropLast_concat,
        ← show n = m from hname] at hmem
      exact absurd hmem hn

/-- When a name on the way stands for a text, the path leads back to the name it started below. -/
theorem eq_cycle {t : Text} (h : Strays o [r] n path e) (hv : v ∈ path.dropLast)
    (hstands : o.StandsFor v t) : e = .cycle r (r :: path) := by
  have hreach := h.transGen hv
  have hchain := h.chain_eq
  have hreason := h.reason
  cases e with
  | unknown m chain =>
    obtain ⟨b, hb⟩ := hstands.expandable.defined m hreach.to_reflTransGen
    have hnone : o.findBlock? m = none := hreason
    rw [hnone] at hb
    cases hb
  | cycle m chain =>
    obtain rfl : chain = r :: path := hchain
    have hmem : m ∈ (r :: path).dropLast := hreason
    obtain ⟨first, rest, rfl⟩ := List.exists_cons_of_ne_nil (List.ne_nil_of_mem
      (List.mem_of_mem_dropLast hv))
    rw [List.dropLast_cons_cons] at hmem
    rcases List.mem_cons.mp hmem with rfl | hmem
    · rfl
    · exact absurd (h.transGen hmem) (hstands.expandable.acyclic m hreach.to_reflTransGen)

end Strays

end Substitution

end Literate

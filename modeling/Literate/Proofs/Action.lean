import Mathlib
import Literate.Action

/-!
# What actions come to

An action is carried out step by step in a world; one that answers has answered in each of its
steps.

* `Action.perform_bind_inv`: the steps of an action that answers.
* `Action.perform_tryCatch_inv`: an answer comes from the action or from what is done about its
  failure.
* `Action.perform_update_inv`: a file operation that succeeds.
-/

namespace Literate.Action

variable {α β ε : Type} {a : Action α} {v : α} {w w' : World}

theorem perform_bind (a : Action α) (f : α → Action β) (w : World) :
    (a >>= f).perform w =
      match a.perform w with
      | (.ok v, w₁) => (f v).perform w₁
      | (.error e, w₁) => (.error e, w₁) := by
  show (ExceptT.run (a >>= f)).run w = _
  rw [ExceptT.run_bind, StateT.run_bind]
  unfold perform
  cases hrun : (ExceptT.run a).run w with
  | mk res w₁ =>
    cases res with
    | ok v => rfl
    | error e => rfl

/-- An action that answers has answered in its first step and in what follows. -/
theorem perform_bind_inv {f : α → Action β} {u : β} (h : (a >>= f).perform w = (.ok u, w')) :
    ∃ v w₁, a.perform w = (.ok v, w₁) ∧ (f v).perform w₁ = (.ok u, w') := by
  rw [perform_bind] at h
  cases hrun : a.perform w with
  | mk res w₁ =>
    rw [hrun] at h
    cases res with
    | ok v => exact ⟨v, w₁, rfl, h⟩
    | error e => cases h

theorem perform_tryCatch (a : Action α) (f : Failure → Action α) (w : World) :
    (tryCatch a f).perform w =
      match a.perform w with
      | (.ok v, w₁) => (.ok v, w₁)
      | (.error e, w₁) => (f e).perform w₁ := by
  show (ExceptT.run (ExceptT.tryCatch a f)).run w = _
  unfold ExceptT.tryCatch perform
  rw [ExceptT.run_mk, StateT.run_bind]
  show ((ExceptT.run a).run w >>= _) = _
  cases hrun : (ExceptT.run a).run w with
  | mk res w₁ =>
    cases res with
    | ok v => rfl
    | error e => rfl

/-- An answer comes from the action, or from what is done about its failure. -/
theorem perform_tryCatch_inv {f : Failure → Action α} (h : (tryCatch a f).perform w = (.ok v, w')) :
    a.perform w = (.ok v, w') ∨
      ∃ e w₁, a.perform w = (.error e, w₁) ∧ (f e).perform w₁ = (.ok v, w') := by
  rw [perform_tryCatch] at h
  cases hrun : a.perform w with
  | mk res w₁ =>
    rw [hrun] at h
    cases res with
    | ok u => exact .inl h
    | error e => exact .inr ⟨e, w₁, rfl, h⟩

theorem perform_ofExcept_inv {f : ε → Failure} {x : Except ε α}
    (h : (ofExcept f x).perform w = (.ok v, w')) : x = .ok v ∧ w' = w := by
  cases x with
  | error e => cases h
  | ok u =>
    cases h
    exact ⟨rfl, rfl⟩

/-- A file operation that succeeds puts its tree in place and changes nothing else. -/
theorem perform_update_inv {f : OsError → Failure} {g : FileTree → Except OsError FileTree}
    {u : Unit} (h : (update f g).perform w = (.ok u, w')) :
    ∃ t, g w.tree = .ok t ∧ w' = { w with tree := t } := by
  have hsteps : (ofExcept f (g w.tree) >>= setTree).perform w = (.ok u, w') := h
  obtain ⟨t, w₁, hof, hset⟩ := perform_bind_inv hsteps
  obtain ⟨hg, rfl⟩ := perform_ofExcept_inv hof
  cases hset
  exact ⟨t, hg, rfl⟩

theorem perform_update {f : OsError → Failure} {g : FileTree → Except OsError FileTree}
    {t : FileTree} (h : g w.tree = .ok t) :
    (update f g).perform w = (.ok (), { w with tree := t }) := by
  show (ofExcept f (g w.tree) >>= setTree).perform w = _
  rw [h]
  rfl

end Literate.Action

import Mathlib
import Literate.Run.Reservation

/-!
# Reservations are those of the runs that are under way

A key is put in when a run is accepted and taken out when that run is over.  No two runs that are
under way have the same key, so taking out a key never takes out the one of another run.

* `Runs.Sound`: the keys in flight are those of the active runs, each once.
* `Runs.Sound.request`, `Runs.Sound.finish`: one step keeps that.
* `Runs.run_sound`: so do any number of steps in any order.
-/

namespace Literate.Run

variable {κ : Type}

namespace Runs

/-- The keys in flight are those of the active runs, and no key is there twice. -/
structure Sound (s : Runs κ) : Prop where
  keys_eq : s.inFlight.keys = s.active.map Prod.snd
  nodup : s.inFlight.keys.Nodup

theorem Sound.start : Sound (start : Runs κ) := ⟨rfl, List.nodup_nil⟩

theorem Sound.nodup_active {s : Runs κ} (h : s.Sound) : (s.active.map Prod.snd).Nodup :=
  h.keys_eq ▸ h.nodup

theorem Sound.mem_keys_iff {s : Runs κ} (h : s.Sound) {k : κ} :
    k ∈ s.inFlight.keys ↔ ∃ i, (i, k) ∈ s.active := by
  rw [h.keys_eq, List.mem_map]
  exact ⟨fun ⟨e, he, hk⟩ => ⟨e.1, hk ▸ he⟩, fun ⟨i, hi⟩ => ⟨(i, k), hi, rfl⟩⟩

/-- A key tells which active run is meant. -/
theorem Sound.eq_of_mem {s : Runs κ} (h : s.Sound) {i j : ℕ} {k : κ} (hi : (i, k) ∈ s.active)
    (hj : (j, k) ∈ s.active) : i = j :=
  congrArg Prod.fst (List.inj_on_of_nodup_map h.nodup_active hi hj rfl)

theorem mem_of_lookup {active : List (ℕ × κ)} {i : ℕ} {k : κ} (h : active.lookup i = some k) :
    (i, k) ∈ active := by
  obtain ⟨before, after, rfl, -⟩ := List.lookup_eq_some_iff.mp h
  simp

end Runs

variable [DecidableEq κ]

theorem InFlight.reserve?_of_mem {s : InFlight κ} {k : κ} (h : k ∈ s.keys) : s.reserve? k = none :=
  if_pos h

theorem InFlight.reserve?_of_notMem {s : InFlight κ} {k : κ} (h : k ∉ s.keys) :
    s.reserve? k = some ⟨k :: s.keys⟩ := if_neg h

namespace Runs

variable {s : Runs κ} {i : ℕ} {k : κ}

theorem request_of_mem (h : k ∈ s.inFlight.keys) (i : ℕ) : s.request i (some k) = (s, .busy) := by
  simp only [request, InFlight.reserve?_of_mem h]

theorem request_of_notMem (h : k ∉ s.inFlight.keys) (i : ℕ) :
    s.request i (some k) = (⟨⟨k :: s.inFlight.keys⟩, (i, k) :: s.active⟩, .accepted) := by
  simp only [request, InFlight.reserve?_of_notMem h]

namespace Sound

/-- A request keeps the invariant, whatever it is told. -/
theorem request (h : s.Sound) (i : ℕ) (key? : Option κ) : (s.request i key?).1.Sound := by
  cases key? with
  | none => exact h
  | some k =>
    by_cases hk : k ∈ s.inFlight.keys
    · rwa [request_of_mem hk]
    · rw [request_of_notMem hk]
      exact ⟨congrArg (k :: ·) h.keys_eq, List.nodup_cons.mpr ⟨hk, h.nodup⟩⟩

/-- The end of a run takes out the run of its key and no other. -/
theorem erase_eq (h : s.Sound) (hi : (i, k) ∈ s.active) :
    s.active.erase (i, k) = s.active.filter fun e => e.2 ≠ k := by
  rw [h.nodup_active.of_map.erase_eq_filter]
  refine List.filter_congr fun e he => ?_
  have hkey : e = (i, k) ↔ e.2 = k :=
    ⟨fun heq => congrArg Prod.snd heq,
      fun heq => List.inj_on_of_nodup_map h.nodup_active he hi heq⟩
  rw [Bool.eq_iff_iff, bne_iff_ne, decide_eq_true_iff]
  exact hkey.not

/-- The end of a run that is active. -/
theorem finish_eq (h : s.Sound) (hi : (i, k) ∈ s.active) (hone : ∀ k', (i, k') ∈ s.active → k' = k) :
    s.finish i = ⟨s.inFlight.release k, s.active.filter fun e => e.2 ≠ k⟩ := by
  cases hlookup : s.active.lookup i with
  | none =>
    have := List.lookup_eq_none_iff.mp hlookup (i, k) hi
    simp at this
  | some k' =>
    obtain rfl := hone k' (mem_of_lookup hlookup)
    simp only [finish, hlookup, h.erase_eq hi]

/-- The end of a run keeps the invariant. -/
theorem finish (h : s.Sound) (i : ℕ) : (s.finish i).Sound := by
  cases hlookup : s.active.lookup i with
  | none => simpa only [Runs.finish, hlookup] using h
  | some k =>
    simp only [Runs.finish, hlookup]
    refine ⟨?_, h.nodup.filter _⟩
    rw [h.erase_eq (mem_of_lookup hlookup), InFlight.release, h.keys_eq, List.filter_map]
    rfl

theorem step (h : s.Sound) : ∀ e, (s.step e).Sound
  | .request i key? => h.request i key?
  | .finish i => h.finish i

end Sound

/-- **Any number of callers, in any order**: the keys in flight are those of the active runs. -/
theorem run_sound (steps : List (Step κ)) : (start.run steps : Runs κ).Sound := by
  have hrun : ∀ s : Runs κ, s.Sound → (s.run steps).Sound := by
    induction steps with
    | nil => exact fun s h => h
    | cons e steps ih => exact fun s h => ih _ (h.step e)
  exact hrun _ .start

end Runs

end Literate.Run

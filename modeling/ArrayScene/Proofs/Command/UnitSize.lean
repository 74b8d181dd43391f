import ArrayScene.Command.Usage
import ArrayScene.Settings.Resolution
import ArrayScene.Proofs.Arrays

/-!
# Unit sizes

A run never has a unit of no or of less than one pixel: neither the settings nor the command line
can say so.
-/
namespace ArrayScene

/-- What holds of a default and of all that a check lets through holds of an optional field. -/
theorem Validation.of_optional {α : Type} {P : α → Prop} {place : List String} {key : String}
    {fields : Json.Fields} {default a : α} {check : List String → Json.Value → Checked α}
    (fallback : P default) (checked : ∀ place v a, check place v = .ok a → P a)
    (read : optional place key fields default check = .ok a) : P a := by
  unfold optional at read
  split at read
  · exact checked _ _ a read
  · cases read
    exact fallback

namespace Settings

open Validation

theorem unitSize_pos_of_read {place : List String} {v : Json.Value} {settings : Settings}
    (read : Settings.read place v = .ok settings) : 0 < settings.unitSize := by
  unfold Settings.read at read
  split at read
  · obtain ⟨⟨_, _, _, unitSize, _⟩, parts, rfl⟩ := exists_of_map_eq_ok read
    have unit := (both_eq_ok_iff.mp (both_eq_ok_iff.mp (both_eq_ok_iff.mp
      (both_eq_ok_iff.mp parts).2).2).2).1
    exact of_optional (P := fun n : Int => 0 < n) (by decide)
      (fun _ _ _ => positiveInteger_pos) unit
  · cases read

theorem unitSize_pos_of_readConfiguration {fields : Json.Fields} {settings : Settings}
    (read : readConfiguration fields = .ok settings) : 0 < settings.unitSize := by
  obtain ⟨⟨found, _⟩, parts, rfl⟩ := exists_of_map_eq_ok read
  exact of_optional (P := fun s : Settings => 0 < s.unitSize) (by decide)
    (fun _ _ _ => unitSize_pos_of_read) (both_eq_ok_iff.mp parts).1

theorem unitSize_pos_of_report {title : String} {fields : Json.Fields} {settings : Settings}
    (read : (match report title (readConfiguration fields) with
      | .ok settings => Except.ok settings
      | .error report => .error (Failure.invalid report)) = .ok settings) :
    0 < settings.unitSize := by
  cases valid : readConfiguration fields with
  | error faults =>
    rw [valid] at read
    cases read
  | ok found =>
    rw [valid] at read
    cases read
    exact unitSize_pos_of_readConfiguration valid

/-- Wherever the settings come from, their unit is positive. -/
theorem unitSize_pos_of_resolve {env : Environment} {asked : Option Path} {d : Disk}
    {settings : Settings} (resolved : resolve env asked d = .ok settings) :
    0 < settings.unitSize := by
  obtain ⟨file, _, resolved⟩ := exists_of_bind_eq_ok resolved
  cases file with
  | none =>
    obtain ⟨_, _, resolved⟩ := exists_of_bind_eq_ok resolved
    obtain ⟨_, _, resolved⟩ := exists_of_bind_eq_ok resolved
    exact unitSize_pos_of_report resolved
  | some p =>
    obtain ⟨_, _, resolved⟩ := exists_of_bind_eq_ok resolved
    obtain ⟨_, _, resolved⟩ := exists_of_bind_eq_ok resolved
    exact unitSize_pos_of_report resolved

end Settings

namespace Invocation

theorem unitSize_pos_of_text {text : String} {n : Int} (read : unitSize? text = some n) :
    0 < n := by
  simp only [unitSize?] at read
  split at read
  · cases read
  · split at read
    · split at read
      · rename_i positive
        cases read
        exact Int.natCast_pos.mpr positive.2
      · cases read
    · cases read

theorem unitSize_pos_of_renderOptions {line : CommandLine} {o : RenderOptions} {n : Int}
    (read : renderOptions? line = some o) (given : o.unitSize = some n) : 0 < n := by
  simp only [renderOptions?] at read
  split at read
  · cases read
    cases given
  · obtain ⟨unitSize, found, rfl⟩ := Option.map_eq_some_iff.mp read
    cases given
    exact unitSize_pos_of_text found

theorem renderOptions?_of_command {words : List String} {o : RenderOptions}
    (asked : ofWords.command words = some (.render o)) : ∃ line, renderOptions? line = some o := by
  unfold ofWords.command at asked
  split at asked
  · cases asked
  · obtain ⟨line, _, asked⟩ := Option.bind_eq_some_iff.mp asked
    split at asked
    · cases asked
    · split at asked
      · obtain ⟨_, found, same⟩ := Option.map_eq_some_iff.mp asked
        cases same
        exact ⟨line, found⟩
      · cases asked
  · obtain ⟨line, _, asked⟩ := Option.bind_eq_some_iff.mp asked
    split at asked
    · cases asked
    · split at asked <;> cases asked
  · obtain ⟨line, _, asked⟩ := Option.bind_eq_some_iff.mp asked
    split at asked
    · cases asked
    · split at asked <;> cases asked
  · cases asked

/-- A unit that a command line gives is positive. -/
theorem unitSize_pos_of_ofWords {words : List String} {o : RenderOptions} {n : Int}
    (asked : ofWords words = some (.render o)) (given : o.unitSize = some n) : 0 < n := by
  have command : ∃ rest, ofWords.command rest = some (.render o) := by
    unfold ofWords at asked
    split at asked
    · cases asked
    · cases asked
    · exact ⟨_, asked⟩
    · exact ⟨_, asked⟩
  obtain ⟨rest, asked⟩ := command
  obtain ⟨line, read⟩ := renderOptions?_of_command asked
  exact unitSize_pos_of_renderOptions read given

end Invocation

end ArrayScene

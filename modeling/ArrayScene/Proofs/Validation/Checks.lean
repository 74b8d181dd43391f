import ArrayScene.Validation.Integer

/-!
# What checks let through

When a field of a record and a positive integer pass their checks, and with which value.
-/
namespace ArrayScene.Validation

variable {α : Type} {place : List String} {key : String} {fields : Json.Fields} {a : α}
  {check : List String → Json.Value → Checked α}

theorem required_eq_ok_iff : required place key fields check = .ok a ↔
    ∃ v, Json.get? key fields = some v ∧ check (place ++ [key]) v = .ok a := by
  cases found : Json.get? key fields with
  | none => simp [required, found, refuse]
  | some v => simp [required, found]

theorem optional_eq_ok_iff {default : α} : optional place key fields default check = .ok a ↔
    (Json.get? key fields = none ∧ a = default) ∨
      ∃ v, Json.get? key fields = some v ∧ check (place ++ [key]) v = .ok a := by
  cases found : Json.get? key fields with
  | none => simp [optional, found, eq_comm]
  | some v => simp [optional, found]

/-- A value that stands for a positive integer. -/
def DescribesSize (v : Json.Value) (n : Int) : Prop := integer v = .ok n ∧ 0 < n

theorem positiveInteger_eq_ok_iff {v : Json.Value} {n : Int} :
    positiveInteger place v = .ok n ↔ DescribesSize v n := by
  unfold positiveInteger DescribesSize
  cases integer v with
  | error cause => simp [refuse]
  | ok m =>
    by_cases positive : 0 < m
    · simp only [positive, if_true, Except.ok.injEq]
      exact ⟨fun same => ⟨same, same ▸ positive⟩, And.left⟩
    · simp only [positive, if_false, refuse, reduceCtorEq, Except.ok.injEq, false_iff, not_and]
      exact fun same => same ▸ positive

end ArrayScene.Validation

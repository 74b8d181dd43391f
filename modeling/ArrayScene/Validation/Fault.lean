import ArrayScene.Json.Plain

/-!
# Faults of a document

What can be wrong with a value that should be a request or a group of settings. A fault has a
cause, the place where it was found and the value found there; a report collects the faults of one
document, and its text lists them.
-/
namespace ArrayScene.Validation

inductive Cause where
  /-- A record was expected, of the kind that is named. -/
  | notRecord (name : String)
  /-- A source type was expected and the value has no fields. -/
  | notFields
  /-- A source type does not say of which kind it is. -/
  | noTag
  /-- A source type says that it is of a kind that does not exist. -/
  | unknownTag (tag : String)
  /-- A fixed word was expected. -/
  | wrongWord (expected : String)
  | missing
  | notText
  | emptyText
  /-- A request has both a type and an operation, or neither. -/
  | subjectCount
  | unknownFormat
  | unknownLevel (given : String)
  | extraKey
  | notPath
  | notInteger
  /-- A number has a fractional part. -/
  | fractional
  /-- A whole number of double precision has no 64-bit form. -/
  | tooLarge
  /-- A text is not the numeral of an integer. -/
  | notNumeral
  | notPositive
  deriving DecidableEq, Repr

namespace Cause

/-- The code of a cause. -/
def code : Cause → String
  | notRecord _ => "model_type"
  | notFields => "model_attributes_type"
  | noTag => "union_tag_not_found"
  | unknownTag _ => "union_tag_invalid"
  | wrongWord _ => "literal_error"
  | missing => "missing"
  | notText => "string_type"
  | emptyText => "string_too_short"
  | subjectCount => "value_error"
  | unknownFormat => "value_error"
  | unknownLevel _ => "value_error"
  | extraKey => "extra_forbidden"
  | notPath => "path_type"
  | notInteger => "int_type"
  | fractional => "int_from_float"
  | tooLarge => "int_parsing_size"
  | notNumeral => "int_parsing"
  | notPositive => "greater_than"

/-- The message of a cause. -/
def message : Cause → String
  | notRecord name => "Input should be a valid dictionary or instance of " ++ name
  | notFields => "Input should be a valid dictionary or object to extract fields from"
  | noTag => "Unable to extract tag using discriminator 'kind'"
  | unknownTag tag =>
    "Input tag '" ++ tag ++ "' found using 'kind' does not match any of the expected tags: " ++
      "'float', 'array', 'function'"
  | wrongWord expected => "Input should be '" ++ expected ++ "'"
  | missing => "Field required"
  | notText => "Input should be a valid string"
  | emptyText => "String should have at least 1 character"
  | subjectCount =>
    "Value error, Render request must define exactly one of 'type' or 'operation'"
  | unknownFormat => "Value error, render.output_format must be one of scene, excalidraw"
  | unknownLevel given => "Value error, render.log_level is not a logging level: " ++ given
  | extraKey => "Extra inputs are not permitted"
  | notPath => "Input is not a valid path for <class 'pathlib.Path'>"
  | notInteger => "Input should be a valid integer"
  | fractional => "Input should be a valid integer, got a number with a fractional part"
  | tooLarge => "Unable to parse input string as an integer, exceeded maximum size"
  | notNumeral => "Input should be a valid integer, unable to parse string as an integer"
  | notPositive => "Input should be greater than 0"

end Cause

/-- A cause, the names that lead to the place of the fault, and the value there. -/
structure Fault where
  cause : Cause
  place : List String
  input : Json.Value
  deriving Repr

/-- The faults of one document, under the name of the record it should have been. -/
structure Report where
  title : String
  faults : List Fault
  deriving Repr

/-- The longest beginning of a text that takes at most `limit` bytes. -/
def headWithin : Nat → List Char → List Char
  | _, [] => []
  | limit, c :: rest =>
    if c.utf8Size ≤ limit then c :: headWithin (limit - c.utf8Size) rest else []

/-- A text of at most 50 bytes as it is, and a longer one without its middle. -/
def abridged (cs : List Char) : List Char :=
  if (cs.map Char.utf8Size).foldr (· + ·) 0 ≤ 50 then cs
  else headWithin 25 cs ++ "...".toList ++ (headWithin 24 cs.reverse).reverse

/-- The lines of a fault: its place if it has one, its message, and where to read more. -/
def Fault.text (fault : Fault) : String :=
  (if fault.place.isEmpty then "" else ".".intercalate fault.place ++ "\n") ++
    "  " ++ fault.cause.message ++ " [type=" ++ fault.cause.code ++ ", input_value=" ++
    String.ofList (abridged (Json.inner fault.input)) ++ ", input_type=" ++
    Json.kindName fault.input ++ "]\n" ++
    "    For further information visit https://errors.pydantic.dev/2.14/v/" ++ fault.cause.code

/-- The text of a report: a line that counts the faults, then the faults. -/
def Report.text (report : Report) : String :=
  let count := report.faults.length
  toString count ++ " validation error" ++ (if count = 1 then "" else "s") ++ " for " ++
    report.title ++ "\n" ++ "\n".intercalate (report.faults.map Fault.text)

/-- A value, or the faults that were found instead. -/
abbrev Checked (α : Type) := Except (List Fault) α

/-- A single fault. -/
def refuse {α : Type} (cause : Cause) (place : List String) (input : Json.Value) : Checked α :=
  .error [⟨cause, place, input⟩]

/-- Two checks in turn; the faults of both are kept. -/
def both {α β : Type} : Checked α → Checked β → Checked (α × β)
  | .ok a, .ok b => .ok (a, b)
  | .ok _, .error f => .error f
  | .error e, .ok _ => .error e
  | .error e, .error f => .error (e ++ f)

/-- A check of a whole document. -/
def report {α : Type} (title : String) : Checked α → Except Report α
  | .ok a => .ok a
  | .error faults => .error ⟨title, faults⟩

theorem both_eq_ok_iff {α β : Type} {x : Checked α} {y : Checked β} {p : α × β} :
    both x y = .ok p ↔ x = .ok p.1 ∧ y = .ok p.2 := by
  obtain ⟨a, b⟩ := p
  cases x <;> cases y <;> simp [both]

/-- The check of a field that must be there. -/
def required {α : Type} (place : List String) (key : String) (fields : Json.Fields)
    (check : List String → Json.Value → Checked α) : Checked α :=
  match Json.get? key fields with
  | some v => check (place ++ [key]) v
  | none => refuse .missing (place ++ [key]) (.obj fields)

/-- The check of a field that has a default. -/
def optional {α : Type} (place : List String) (key : String) (fields : Json.Fields) (default : α)
    (check : List String → Json.Value → Checked α) : Checked α :=
  match Json.get? key fields with
  | some v => check (place ++ [key]) v
  | none => .ok default

end ArrayScene.Validation

import ArrayScene.Proofs.Arrays
import ArrayScene.Proofs.Validation.Checks
import ArrayScene.Source.Reading

/-!
# What a value describes

The relation between a value and the source type, the operation or the request that it describes,
said by the fields of its objects alone: no order of checks, no place and no fault is part of it.
A value is read exactly as what it describes, whatever the place, so what can be told of
descriptions holds of every reading. A source type names its kind; an operation and its function
may leave theirs out.
-/
namespace ArrayScene

open Validation

namespace Json

/-- A kind that is given as the word or left out. -/
def Implied (word : String) (fields : Fields) : Prop :=
  get? "kind" fields = none ∨ get? "kind" fields = some (.str word)

/-- A field that is left out or null. -/
def Absent (key : String) (fields : Fields) : Prop :=
  get? key fields = none ∨ get? key fields = some .null

end Json

/-- The source type that a value describes. -/
inductive DescribesType : Json.Value → SourceType → Prop
  | float {fields : Json.Fields} (kind : Json.get? "kind" fields = some (.str "float")) :
      DescribesType (.obj fields) .float
  | array {fields : Json.Fields} {v size : Json.Value} {element : SourceType} {n : Int}
      (kind : Json.get? "kind" fields = some (.str "array"))
      (inside : Json.get? "element" fields = some v) (described : DescribesType v element)
      (sized : Json.get? "size" fields = some size) (count : DescribesSize size n) :
      DescribesType (.obj fields) (.array element n)
  | function {fields : Json.Fields} {v w : Json.Value} {input output : SourceType}
      (kind : Json.get? "kind" fields = some (.str "function"))
      (source : Json.get? "input_type" fields = some v) (taken : DescribesType v input)
      (target : Json.get? "output_type" fields = some w) (given : DescribesType w output) :
      DescribesType (.obj fields) (.function input output)

/-- The function of an operation that a value describes. -/
inductive DescribesFunction : Json.Value → SourceType × SourceType → Prop
  | intro {fields : Json.Fields} {v w : Json.Value} {input output : SourceType}
      (kind : Json.Implied "function" fields)
      (source : Json.get? "input_type" fields = some v) (taken : DescribesType v input)
      (target : Json.get? "output_type" fields = some w) (given : DescribesType w output) :
      DescribesFunction (.obj fields) (input, output)

/-- The operation that a value describes. -/
inductive DescribesOperation : Json.Value → MapOperation → Prop
  | intro {fields : Json.Fields} {v size : Json.Value} {input output : SourceType} {n : Int}
      (kind : Json.Implied "map" fields)
      (mapped : Json.get? "function" fields = some v) (types : DescribesFunction v (input, output))
      (sized : Json.get? "size" fields = some size) (count : DescribesSize size n) :
      DescribesOperation (.obj fields) ⟨input, output, n⟩

/-- The name that the fields of a request give, which is not empty. -/
def DescribesName (fields : Json.Fields) (name : String) : Prop :=
  (Json.get? "name" fields = none ∧ name = "scene") ∨
    (Json.get? "name" fields = some (.str name) ∧ name ≠ "")

/-- The request that a value describes: of a type or of an operation, the other being absent. -/
inductive DescribesRequest : Json.Value → Request → Prop
  | type {fields : Json.Fields} {name : String} {v : Json.Value} {t : SourceType}
      (named : DescribesName fields name)
      (subject : Json.get? "type" fields = some v) (described : DescribesType v t)
      (other : Json.Absent "operation" fields) : DescribesRequest (.obj fields) ⟨name, .type t⟩
  | operation {fields : Json.Fields} {name : String} {v : Json.Value} {m : MapOperation}
      (named : DescribesName fields name)
      (subject : Json.get? "operation" fields = some v) (described : DescribesOperation v m)
      (other : Json.Absent "type" fields) : DescribesRequest (.obj fields) ⟨name, .operation m⟩

/-! ### Reading is description -/

theorem lookup_readFields (place : List String) (key : String) (fields : Json.Fields) :
    (readFields place fields).lookup key =
      (Json.get? key fields).map (readType (place ++ [key])) := by
  induction fields with
  | nil => rfl
  | cons field rest ih =>
    obtain ⟨k, v⟩ := field
    unfold Json.get? at ih ⊢
    rw [readFields, List.lookup_cons, List.lookup_cons, ih]
    cases same : key == k with
    | false => rfl
    | true => rw [eq_of_beq same]; rfl

/-- A field is read as a source type like any other that must be there. -/
theorem fieldType_readFields (place : List String) (key : String) (fields : Json.Fields) :
    fieldType place key fields (readFields place fields) =
      required place key fields readType := by
  unfold fieldType required
  rw [lookup_readFields]
  cases Json.get? key fields <;> rfl

theorem exists_of_readType_eq_ok {place : List String} {v : Json.Value} {t : SourceType}
    (read : readType place v = .ok t) : ∃ fields, v = .obj fields ∧
      match t with
      | .float => Json.get? "kind" fields = some (.str "float")
      | .array element n => Json.get? "kind" fields = some (.str "array") ∧
          required (place ++ ["array"]) "element" fields readType = .ok element ∧
          required (place ++ ["array"]) "size" fields positiveInteger = .ok n
      | .function input output => Json.get? "kind" fields = some (.str "function") ∧
          required (place ++ ["function"]) "input_type" fields readType = .ok input ∧
          required (place ++ ["function"]) "output_type" fields readType = .ok output := by
  cases v with
  | obj fields =>
    refine ⟨fields, rfl, ?_⟩
    unfold readType at read
    simp only [fieldType_readFields] at read
    split at read
    case h_1 => cases read
    case h_2 kind => cases read; exact kind
    case h_3 kind =>
      obtain ⟨_, parts, rfl⟩ := exists_of_map_eq_ok read
      exact ⟨kind, both_eq_ok_iff.mp parts⟩
    case h_4 kind =>
      obtain ⟨_, parts, rfl⟩ := exists_of_map_eq_ok read
      exact ⟨kind, both_eq_ok_iff.mp parts⟩
    case h_5 => cases read
  | _ => simp [readType, refuse] at read

theorem describes_of_readType {t : SourceType} : ∀ {place : List String} {v : Json.Value},
    readType place v = .ok t → DescribesType v t := by
  induction t with
  | float =>
    intro place v read
    obtain ⟨fields, rfl, kind⟩ := exists_of_readType_eq_ok read
    exact .float kind
  | array element n ih =>
    intro place v read
    obtain ⟨fields, rfl, kind, inside, sized⟩ := exists_of_readType_eq_ok read
    obtain ⟨v, inside, described⟩ := required_eq_ok_iff.mp inside
    obtain ⟨w, sized, count⟩ := required_eq_ok_iff.mp sized
    exact .array kind inside (ih described) sized (positiveInteger_eq_ok_iff.mp count)
  | function input output ihInput ihOutput =>
    intro place v read
    obtain ⟨fields, rfl, kind, source, target⟩ := exists_of_readType_eq_ok read
    obtain ⟨v, source, taken⟩ := required_eq_ok_iff.mp source
    obtain ⟨w, target, given⟩ := required_eq_ok_iff.mp target
    exact .function kind source (ihInput taken) target (ihOutput given)

theorem readType_of_describes {v : Json.Value} {t : SourceType} (described : DescribesType v t) :
    ∀ place, readType place v = .ok t := by
  induction described with
  | float kind =>
    intro place
    simp only [readType, kind]
  | @array fields v size element n kind inside _ sized count ih =>
    intro place
    have element : required (place ++ ["array"]) "element" fields readType = .ok element :=
      required_eq_ok_iff.mpr ⟨v, inside, ih _⟩
    have size : required (place ++ ["array"]) "size" fields positiveInteger = .ok n :=
      required_eq_ok_iff.mpr ⟨size, sized, positiveInteger_eq_ok_iff.mpr count⟩
    simp only [readType, kind, fieldType_readFields, element, size, both, Except.map]
  | @function fields v w input output kind source _ target _ ihInput ihOutput =>
    intro place
    have input : required (place ++ ["function"]) "input_type" fields readType = .ok input :=
      required_eq_ok_iff.mpr ⟨v, source, ihInput _⟩
    have output : required (place ++ ["function"]) "output_type" fields readType = .ok output :=
      required_eq_ok_iff.mpr ⟨w, target, ihOutput _⟩
    simp only [readType, kind, fieldType_readFields, input, output, both, Except.map]

theorem readType_eq_ok_iff {place : List String} {v : Json.Value} {t : SourceType} :
    readType place v = .ok t ↔ DescribesType v t :=
  ⟨describes_of_readType, fun described => readType_of_describes described place⟩

theorem fixedWord_eq_ok_iff {place : List String} {word : String} {fields : Json.Fields} :
    fixedWord place word fields = .ok () ↔ Json.Implied word fields := by
  unfold fixedWord Json.Implied
  rw [optional_eq_ok_iff]
  apply or_congr (and_iff_left rfl)
  constructor
  · rintro ⟨v, found, checked⟩
    split at checked
    · split at checked
      · next same => rw [found, same]
      · cases checked
    · cases checked
  · intro found
    exact ⟨_, found, if_pos rfl⟩

theorem readFunction_eq_ok_iff {place : List String} {v : Json.Value}
    {types : SourceType × SourceType} :
    readFunction place v = .ok types ↔ DescribesFunction v types := by
  constructor
  · intro read
    unfold readFunction at read
    split at read
    · obtain ⟨⟨⟨⟩, input, output⟩, parts, rfl⟩ := exists_of_map_eq_ok read
      obtain ⟨kind, parts⟩ := both_eq_ok_iff.mp parts
      obtain ⟨source, target⟩ := both_eq_ok_iff.mp parts
      obtain ⟨v, source, taken⟩ := required_eq_ok_iff.mp source
      obtain ⟨w, target, given⟩ := required_eq_ok_iff.mp target
      exact .intro (fixedWord_eq_ok_iff.mp kind) source (readType_eq_ok_iff.mp taken) target
        (readType_eq_ok_iff.mp given)
    · cases read
  · intro described
    cases described with
    | @intro fields v w input output kind source taken target given =>
      have input : required place "input_type" fields readType = .ok input :=
        required_eq_ok_iff.mpr ⟨v, source, readType_of_describes taken _⟩
      have output : required place "output_type" fields readType = .ok output :=
        required_eq_ok_iff.mpr ⟨w, target, readType_of_describes given _⟩
      simp only [readFunction, fixedWord_eq_ok_iff.mpr kind, input, output, both, Except.map]

theorem readOperation_eq_ok_iff {place : List String} {v : Json.Value} {m : MapOperation} :
    readOperation place v = .ok m ↔ DescribesOperation v m := by
  constructor
  · intro read
    unfold readOperation at read
    split at read
    · obtain ⟨⟨⟨⟩, ⟨input, output⟩, n⟩, parts, rfl⟩ := exists_of_map_eq_ok read
      obtain ⟨kind, parts⟩ := both_eq_ok_iff.mp parts
      obtain ⟨mapped, sized⟩ := both_eq_ok_iff.mp parts
      obtain ⟨v, mapped, types⟩ := required_eq_ok_iff.mp mapped
      obtain ⟨w, sized, count⟩ := required_eq_ok_iff.mp sized
      exact .intro (fixedWord_eq_ok_iff.mp kind) mapped (readFunction_eq_ok_iff.mp types) sized
        (positiveInteger_eq_ok_iff.mp count)
    · cases read
  · intro described
    cases described with
    | @intro fields v size input output n kind mapped types sized count =>
      have function : required place "function" fields readFunction = .ok (input, output) :=
        required_eq_ok_iff.mpr ⟨v, mapped, readFunction_eq_ok_iff.mpr types⟩
      have size : required place "size" fields positiveInteger = .ok n :=
        required_eq_ok_iff.mpr ⟨size, sized, positiveInteger_eq_ok_iff.mpr count⟩
      simp only [readOperation, fixedWord_eq_ok_iff.mpr kind, function, size, both, Except.map]

theorem name_eq_ok_iff {fields : Json.Fields} {name : String} :
    optional [] "name" fields "scene" readName = .ok name ↔ DescribesName fields name := by
  unfold DescribesName
  rw [optional_eq_ok_iff]
  apply or_congr Iff.rfl
  constructor
  · rintro ⟨v, found, checked⟩
    unfold readName at checked
    split at checked
    · split at checked
      · cases checked
      · next nonempty => cases checked; exact ⟨found, nonempty⟩
    · cases checked
  · rintro ⟨found, nonempty⟩
    exact ⟨_, found, if_neg nonempty⟩

section

variable {α : Type} {key : String} {fields : Json.Fields}
  {check : List String → Json.Value → Checked α}

theorem nullable_eq_none_iff :
    optional [] key fields none (nullable check) = .ok none ↔ Json.Absent key fields := by
  unfold Json.Absent
  rw [optional_eq_ok_iff]
  apply or_congr (and_iff_left rfl)
  constructor
  · rintro ⟨v, found, checked⟩
    unfold nullable at checked
    split at checked
    · exact found
    · obtain ⟨_, _, impossible⟩ := exists_of_map_eq_ok checked
      cases impossible
  · intro found
    exact ⟨_, found, rfl⟩

theorem nullable_eq_some_iff {a : α} (refused : ∀ a, check [key] .null ≠ .ok a) :
    optional [] key fields none (nullable check) = .ok (some a) ↔
      ∃ v, Json.get? key fields = some v ∧ check [key] v = .ok a := by
  rw [optional_eq_ok_iff]
  simp only [reduceCtorEq, and_false, false_or, List.nil_append]
  refine exists_congr fun v => and_congr_right fun _ => ?_
  unfold nullable
  split
  · exact iff_of_false (by simp) (refused a)
  · constructor
    · intro checked
      obtain ⟨_, checked, same⟩ := exists_of_map_eq_ok checked
      cases same
      exact checked
    · intro checked
      rw [checked]
      rfl

end

theorem typeField_eq_some_iff {fields : Json.Fields} {t : SourceType} :
    optional [] "type" fields none (nullable readType) = .ok (some t) ↔
      ∃ v, Json.get? "type" fields = some v ∧ DescribesType v t := by
  rw [nullable_eq_some_iff nofun]
  simp only [readType_eq_ok_iff]

theorem operationField_eq_some_iff {fields : Json.Fields} {m : MapOperation} :
    optional [] "operation" fields none (nullable readOperation) = .ok (some m) ↔
      ∃ v, Json.get? "operation" fields = some v ∧ DescribesOperation v m := by
  rw [nullable_eq_some_iff nofun]
  simp only [readOperation_eq_ok_iff]

theorem readRequest_eq_ok_iff {v : Json.Value} {r : Request} :
    readRequest v = .ok r ↔ DescribesRequest v r := by
  constructor
  · intro read
    unfold readRequest at read
    split at read
    · split at read
      · cases read
      · next parts =>
        cases read
        obtain ⟨named, parts⟩ := both_eq_ok_iff.mp parts
        obtain ⟨subject, other⟩ := both_eq_ok_iff.mp parts
        obtain ⟨v, subject, described⟩ := typeField_eq_some_iff.mp subject
        exact .type (name_eq_ok_iff.mp named) subject described (nullable_eq_none_iff.mp other)
      · next parts =>
        cases read
        obtain ⟨named, parts⟩ := both_eq_ok_iff.mp parts
        obtain ⟨other, subject⟩ := both_eq_ok_iff.mp parts
        obtain ⟨v, subject, described⟩ := operationField_eq_some_iff.mp subject
        exact .operation (name_eq_ok_iff.mp named) subject described
          (nullable_eq_none_iff.mp other)
      · cases read
    · cases read
  · intro described
    cases described with
    | type named subject described other =>
      simp only [readRequest, name_eq_ok_iff.mpr named, nullable_eq_none_iff.mpr other,
        typeField_eq_some_iff.mpr ⟨_, subject, described⟩, both]
    | operation named subject described other =>
      simp only [readRequest, name_eq_ok_iff.mpr named, nullable_eq_none_iff.mpr other,
        operationField_eq_some_iff.mpr ⟨_, subject, described⟩, both]

/-- A value is accepted as the request that it describes. -/
theorem Request.ofJson_eq_ok_iff {v : Json.Value} {r : Request} :
    Request.ofJson v = .ok r ↔ DescribesRequest v r := by
  rw [← readRequest_eq_ok_iff]
  unfold Request.ofJson report
  cases readRequest v <;> simp

/-! ### What is described is valid, and its full form describes it -/

theorem positive_of_describesType {v : Json.Value} {t : SourceType}
    (described : DescribesType v t) : t.Positive := by
  induction described with
  | float => trivial
  | array _ _ _ _ count ih => exact ⟨count.2, ih⟩
  | function _ _ _ _ _ ihInput ihOutput => exact ⟨ihInput, ihOutput⟩

theorem positive_of_describesOperation {v : Json.Value} {m : MapOperation}
    (described : DescribesOperation v m) : m.Positive := by
  obtain ⟨_, _, types, _, count⟩ := described
  cases types with
  | intro _ _ taken _ given =>
    exact ⟨count.2, positive_of_describesType taken, positive_of_describesType given⟩

theorem valid_of_describesRequest {v : Json.Value} {r : Request}
    (described : DescribesRequest v r) : r.Valid := by
  have named {fields : Json.Fields} {name : String} (given : DescribesName fields name) :
      name ≠ "" := by
    rcases given with ⟨_, rfl⟩ | ⟨_, nonempty⟩
    · decide
    · exact nonempty
  cases described with
  | type given _ described _ => exact ⟨named given, positive_of_describesType described⟩
  | operation given _ described _ => exact ⟨named given, positive_of_describesOperation described⟩

theorem describesSize_int {n : Int} (positive : 0 < n) : DescribesSize (.int n) n :=
  ⟨rfl, positive⟩

theorem SourceType.describes_toJson {t : SourceType} (positive : t.Positive) :
    DescribesType t.toJson t := by
  induction t with
  | float => exact .float rfl
  | array element n ih => exact .array rfl rfl (ih positive.2) rfl (describesSize_int positive.1)
  | function input output ihInput ihOutput =>
    exact .function rfl rfl (ihInput positive.1) rfl (ihOutput positive.2)

theorem MapOperation.describes_toJson {m : MapOperation} (positive : m.Positive) :
    DescribesOperation m.toJson m := by
  obtain ⟨count, input, output⟩ := positive
  have types : DescribesFunction (SourceType.function m.input m.output).toJson
      (m.input, m.output) :=
    .intro (.inr rfl) rfl (SourceType.describes_toJson input) rfl
      (SourceType.describes_toJson output)
  exact .intro (.inr rfl) rfl types rfl (describesSize_int count)

theorem Request.describes_toJson {r : Request} (valid : r.Valid) :
    DescribesRequest r.toJson r := by
  obtain ⟨name, subject⟩ := r
  obtain ⟨nonempty, positive⟩ := valid
  cases subject with
  | type t =>
    exact .type (.inr ⟨rfl, nonempty⟩) rfl (SourceType.describes_toJson positive) (.inr rfl)
  | operation m =>
    exact .operation (.inr ⟨rfl, nonempty⟩) rfl (MapOperation.describes_toJson positive) (.inr rfl)

end ArrayScene

import ArrayScene.Source.Basic
import ArrayScene.Validation.Integer

/-!
# Reading a request

How the value of a document is read as a request. Keys that a record does not know are passed
over, every fault is reported in the order of the fields, and the rule that a request has one
subject is looked at when all else is sound. A place inside a source type is given with the tag of
that type, so `type`, `array`, `size` leads to the size of an array.

Types may lie within one another to any depth here. A validator that refuses what lies more than 254
types deep refuses some of the requests that are read.
-/
namespace ArrayScene

open Validation

/-- A field that may only hold one word, and need not be there. -/
def fixedWord (place : List String) (word : String) (fields : Json.Fields) : Checked Unit :=
  optional place "kind" fields () fun place v =>
    match v with
    | .str s => if s = word then .ok () else refuse (.wrongWord word) place v
    | _ => refuse (.wrongWord word) place v

/-- The reading of a field of a source type, out of the readings of all its fields. -/
def fieldType (place : List String) (key : String) (fields : Json.Fields)
    (readings : List (String × Checked SourceType)) : Checked SourceType :=
  (readings.lookup key).getD (refuse .missing (place ++ [key]) (.obj fields))

mutual

/-- A value read as a source type. -/
def readType (place : List String) : Json.Value → Checked SourceType
  | .obj fields =>
    match Json.get? "kind" fields with
    | none => refuse .noTag place (.obj fields)
    | some (.str "float") => .ok .float
    | some (.str "array") =>
      let here := place ++ ["array"]
      (both (fieldType here "element" fields (readFields here fields))
        (required here "size" fields positiveInteger)).map fun (element, size) =>
          .array element size
    | some (.str "function") =>
      let here := place ++ ["function"]
      let readings := readFields here fields
      (both (fieldType here "input_type" fields readings)
        (fieldType here "output_type" fields readings)).map fun (input, output) =>
          .function input output
    | some tag => refuse (.unknownTag (Json.plain tag)) place (.obj fields)
  | v => refuse .notFields place v

/-- Every field of an object read as a source type. -/
def readFields (place : List String) : List (String × Json.Value) →
    List (String × Checked SourceType)
  | [] => []
  | (key, v) :: rest => (key, readType (place ++ [key]) v) :: readFields place rest

end

/-- The function of an operation: its input and its output. -/
def readFunction (place : List String) (v : Json.Value) : Checked (SourceType × SourceType) :=
  match v with
  | .obj fields =>
    (both (fixedWord place "function" fields)
      (both (required place "input_type" fields readType)
        (required place "output_type" fields readType))).map fun (_, types) => types
  | _ => refuse (.notRecord "FunctionType") place v

/-- A value read as an operation. -/
def readOperation (place : List String) (v : Json.Value) : Checked MapOperation :=
  match v with
  | .obj fields =>
    (both (fixedWord place "map" fields)
      (both (required place "function" fields readFunction)
        (required place "size" fields positiveInteger))).map
          fun (_, (input, output), size) => ⟨input, output, size⟩
  | _ => refuse (.notRecord "MapOperation") place v

/-- The name of a scene. -/
def readName (place : List String) (v : Json.Value) : Checked String :=
  match v with
  | .str s => if s = "" then refuse .emptyText place v else .ok s
  | _ => refuse .notText place v

/-- A field whose null stands for its absence. -/
def nullable {α : Type} (check : List String → Json.Value → Checked α) (place : List String)
    (v : Json.Value) : Checked (Option α) :=
  match v with
  | .null => .ok none
  | v => (check place v).map some

/-- A value read as a request. -/
def readRequest (v : Json.Value) : Checked Request :=
  match v with
  | .obj fields =>
    match both (optional [] "name" fields "scene" readName)
        (both (optional [] "type" fields none (nullable readType))
          (optional [] "operation" fields none (nullable readOperation))) with
    | .error faults => .error faults
    | .ok (name, some t, none) => .ok ⟨name, .type t⟩
    | .ok (name, none, some m) => .ok ⟨name, .operation m⟩
    | .ok _ => refuse .subjectCount [] v
  | _ => refuse (.notRecord "RenderRequest") [] v

/-- The request that a value holds. -/
def Request.ofJson (v : Json.Value) : Except Report Request :=
  report "RenderRequest" (readRequest v)

/-- The operation that a value holds. -/
def MapOperation.ofJson (v : Json.Value) : Except Report MapOperation :=
  report "MapOperation" (readOperation [] v)

end ArrayScene

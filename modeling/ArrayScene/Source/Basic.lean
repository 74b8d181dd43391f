import ArrayScene.Json.Value

/-!
# Source types and requests

What a scene is asked for: a type built from numbers, arrays and functions, or an operation that
maps a function over an array. A request names its scene and has one subject. `toJson` gives the
full form of each, in which nothing is left to a default.
-/
namespace ArrayScene

inductive SourceType where
  | float
  | array (element : SourceType) (size : Int)
  | function (input output : SourceType)
  deriving DecidableEq, Repr

/-- A function from `input` to `output` mapped over an array of `size` elements. -/
structure MapOperation where
  input : SourceType
  output : SourceType
  size : Int
  deriving DecidableEq, Repr

/-- What a request asks to be drawn. -/
inductive Subject where
  | type (t : SourceType)
  | operation (m : MapOperation)
  deriving DecidableEq, Repr

structure Request where
  name : String
  subject : Subject
  deriving DecidableEq, Repr

namespace SourceType

/-- Every array of the type has at least one element. -/
def Positive : SourceType → Prop
  | float => True
  | array element size => 0 < size ∧ element.Positive
  | function input output => input.Positive ∧ output.Positive

/-- The sizes of the arrays around the innermost element, outermost first. -/
def sizes : SourceType → List Int
  | array element size => size :: element.sizes
  | _ => []

/-- What is left of a type below all its arrays. -/
def bottom : SourceType → SourceType
  | array element _ => element.bottom
  | t => t

def toJson : SourceType → Json.Value
  | float => .obj [("kind", .str "float")]
  | array element size =>
    .obj [("kind", .str "array"), ("element", element.toJson), ("size", .int size)]
  | function input output =>
    .obj [("kind", .str "function"), ("input_type", input.toJson), ("output_type", output.toJson)]

end SourceType

namespace MapOperation

/-- Every size of the operation and of its types is positive. -/
def Positive (m : MapOperation) : Prop := 0 < m.size ∧ m.input.Positive ∧ m.output.Positive

def toJson (m : MapOperation) : Json.Value :=
  .obj [("kind", .str "map"), ("function", (SourceType.function m.input m.output).toJson),
    ("size", .int m.size)]

end MapOperation

namespace Subject

/-- Every size of the subject is positive. -/
def Positive : Subject → Prop
  | type t => t.Positive
  | operation m => m.Positive

/-- The type of the subject, if it is one. -/
def type? : Subject → Option SourceType
  | type t => some t
  | operation _ => none

/-- The operation of the subject, if it is one. -/
def operation? : Subject → Option MapOperation
  | type _ => none
  | operation m => some m

end Subject

namespace Request

/-- A request has a name and positive sizes. -/
def Valid (r : Request) : Prop := r.name ≠ "" ∧ r.subject.Positive

def toJson (r : Request) : Json.Value :=
  .obj [("name", .str r.name),
    ("type", (r.subject.type?.map SourceType.toJson).getD .null),
    ("operation", (r.subject.operation?.map MapOperation.toJson).getD .null)]

end Request

end ArrayScene

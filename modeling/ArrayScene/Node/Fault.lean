import ArrayScene.Decimal.Integer
import ArrayScene.Node.Basic
import ArrayScene.Source.Basic

/-!
# Faults of building and drawing

Why a type cannot be turned into nodes, or nodes into a drawing.
-/
namespace ArrayScene

/-- What may be handed over where a type or an operation is expected. -/
inductive Source where
  | subject (s : Subject)
  | nothing
  deriving DecidableEq, Repr

/-- The name of the kind of a source. -/
def Source.name : Source → String
  | subject (.type .float) => "ScalarType"
  | subject (.type (.array _ _)) => "ArrayType"
  | subject (.type (.function _ _)) => "FunctionType"
  | subject (.operation _) => "MapOperation"
  | nothing => "NoneType"

inductive SceneFault where
  /-- A function was to be drawn as a value. -/
  | functionType
  /-- An array was to be built from no groups of sizes. -/
  | noGroups
  /-- The splits do not add up to the number of sizes. -/
  | uncovered (splits : List Int) (count : Nat)
  /-- A group has neither one nor two sizes. -/
  | tierRank (rank : Nat)
  /-- No nodes were given to be aligned. -/
  | nothingToAlign
  /-- A node has no size. -/
  | unknownNode (kind : NodeKind)
  /-- A node cannot be drawn as a value. -/
  | unknownTypeNode (kind : NodeKind)
  /-- A node cannot be drawn as an operation. -/
  | unknownOperationNode (kind : NodeKind)
  /-- Something other than a type was to be built as a type. -/
  | unknownType (given : Source)
  /-- Something other than an operation was to be built as an operation. -/
  | unknownOperation (given : Source)
  deriving DecidableEq, Repr

namespace SceneFault

/-- A list of integers within a message. -/
def listText (ns : List Int) : String :=
  "[" ++ ", ".intercalate (ns.map fun n => String.ofList (Decimal.ofInt n)) ++ "]"

def message : SceneFault → String
  | functionType => "No support for drawing function types"
  | noGroups => "Array type node requested with no dimension groups"
  | uncovered splits count =>
    "Dimension splits " ++ listText splits ++ " do not cover " ++ toString count ++
      " array sizes. Try another dimension grouping"
  | tierRank rank =>
    "Unsupported rendering of " ++ toString rank ++
      "-dimensional array level. Try another dimension grouping"
  | nothingToAlign => "Horizontal alignment requires at least one node"
  | unknownNode kind => "Unknown scene node: " ++ kind.name
  | unknownTypeNode kind => "Unknown type node: " ++ kind.name
  | unknownOperationNode kind => "Unknown operation node: " ++ kind.name
  | unknownType given => "Unknown source type: " ++ given.name
  | unknownOperation given => "Unknown source operation: " ++ given.name

/-- The faults that lie in what was asked for, not in how the library was called. -/
def ofRequest : SceneFault → Bool
  | functionType | noGroups | uncovered _ _ | tierRank _ | nothingToAlign => true
  | _ => false

end SceneFault

end ArrayScene

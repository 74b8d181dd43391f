import ArrayScene.Node.Tier

/-!
# Building nodes

How types and operations become nodes. The sizes of nested arrays are flattened and grouped by a
split rule; the tiers are put around the innermost element from the inside out, so a fault of an
inner tier is found before one of the tier around it.
-/
namespace ArrayScene

namespace Node

/-- One tier around an element. -/
def tier (element : Node) : List Int → Except SceneFault Node
  | [n] => .ok (.linear element n)
  | [w, h] => .ok (.grid element w h)
  | group => .error (.tierRank group.length)

/-- Tiers around the node that `bottom` gives, which is built first. -/
def tiers (bottom : Except SceneFault Node) : List (List Int) → Except SceneFault Node
  | [] => .error .noGroups
  | [group] => do
    let element ← bottom
    element.tier group
  | group :: inner => do
    let element ← tiers bottom inner
    element.tier group

/-- The node of a type whose arrays hold no other arrays than those in `sizes`: those are grouped
by the rule, and `bottom` is below them. -/
def ofSizes (rule : SplitRule) (bottom : Except SceneFault Node) (sizes : List Int) :
    Except SceneFault Node := do
  let groups ← groupSizes (rule sizes.length) sizes
  tiers bottom groups

/-- The node of what is below the arrays of a type. -/
def ofBottom : SourceType → Except SceneFault Node
  | .array element _ => ofBottom element
  | .float => .ok .float
  | .function _ _ => .error .functionType

/-- The node of a type. -/
def ofType (rule : SplitRule) : SourceType → Except SceneFault Node
  | .float => .ok .float
  | .array element size => ofSizes rule (ofBottom element) (size :: element.sizes)
  | .function _ _ => .error .functionType

/-- Tiers of the given groups around the node of a type. -/
def ofGroups (rule : SplitRule) (bottom : SourceType) (groups : List (List Int)) :
    Except SceneFault Node :=
  tiers (ofType rule bottom) groups

/-- The node of an operation; its input is built first. -/
def ofOperation (rule : SplitRule) (m : MapOperation) : Except SceneFault Node := do
  let input ← ofType rule m.input
  let output ← ofType rule m.output
  .ok (.map input output m.size)

/-- The node of a subject. -/
def ofSubject (rule : SplitRule) : Subject → Except SceneFault Node
  | .type t => ofType rule t
  | .operation m => ofOperation rule m

/-- The node of a source that has to be a type. -/
def ofTypeSource (rule : SplitRule) : Source → Except SceneFault Node
  | .subject (.type t) => ofType rule t
  | other => .error (.unknownType other)

/-- The node of a source that has to be an operation. -/
def ofOperationSource (rule : SplitRule) : Source → Except SceneFault Node
  | .subject (.operation m) => ofOperation rule m
  | other => .error (.unknownOperation other)

end Node

end ArrayScene

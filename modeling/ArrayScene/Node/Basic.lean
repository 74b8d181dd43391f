/-!
# Scene nodes

The tree that a drawing is made from. A node is a number, a row or a grid of one element, or a map
from a row of inputs to a row of outputs. A bare node belongs to one of the three classes of nodes
without being any of these; it has no size and cannot be drawn.

Sizes are any integers: a row of no or of fewer elements is a row without elements.
-/
namespace ArrayScene

/-- The classes that bare nodes belong to. -/
inductive NodeClass where
  | node | typeNode | operationNode
  deriving DecidableEq, Repr

inductive Node where
  | float
  | linear (element : Node) (size : Int)
  | grid (element : Node) (width height : Int)
  | map (input output : Node) (size : Int)
  | bare (of : NodeClass)
  deriving DecidableEq, Repr

/-- The kinds of nodes. -/
inductive NodeKind where
  | float | linear | grid | map
  | bare (of : NodeClass)
  deriving DecidableEq, Repr

namespace NodeKind

def name : NodeKind → String
  | float => "FloatNode"
  | linear => "LinearArrayNode"
  | grid => "GridArrayNode"
  | map => "MapNode"
  | bare .node => "Node"
  | bare .typeNode => "TypeNode"
  | bare .operationNode => "OperationNode"

end NodeKind

namespace Node

def kind : Node → NodeKind
  | float => .float
  | linear _ _ => .linear
  | grid _ _ _ => .grid
  | map _ _ _ => .map
  | bare c => .bare c

/-- The node below all the rows and grids of a node. -/
def core : Node → Node
  | linear e _ => e.core
  | grid e _ _ => e.core
  | n => n

/-- The sizes of the rows and grids of a node from the outside in; a grid gives its width and then
its height. -/
def tierSizes : Node → List Int
  | linear e n => n :: e.tierSizes
  | grid e w h => w :: h :: e.tierSizes
  | _ => []

/-- The first bare node from the left, the input of a map before its output. -/
def leftmostBare? : Node → Option NodeClass
  | float => none
  | linear e _ => e.leftmostBare?
  | grid e _ _ => e.leftmostBare?
  | map i o _ => i.leftmostBare?.or o.leftmostBare?
  | bare c => some c

end Node

end ArrayScene

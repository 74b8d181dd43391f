import ArrayScene.Node.Extent
import ArrayScene.Primitive

/-!
# Drawing nodes

How nodes become primitives. An array is drawn as copies of its element, column by column and from
the top within a column, and then the box around them. A map is drawn as its input array, below it
its output array, both centred on one axis, and last the arrow from one to the other.
-/
namespace ArrayScene

namespace Node

/-- Copies of a drawing, `count` of them, one `dx` to the right of another. -/
def copiesAcross (count dx : Int) (ps : List Primitive) : List Primitive :=
  (List.range count.toNat).flatMap fun (i : Nat) => shiftAll (i * dx) 0 ps

/-- Copies of a drawing in a grid, a column after another. -/
def copiesInGrid (columns rows dx dy : Int) (ps : List Primitive) : List Primitive :=
  (List.range columns.toNat).flatMap fun (i : Nat) =>
    (List.range rows.toNat).flatMap fun (j : Nat) => shiftAll (i * dx) (j * dy) ps

/-- The drawing of a value. -/
def drawType : Node → Except SceneFault (List Primitive)
  | float => .ok [.unit]
  | linear e n => do
    let w ← e.width
    let h ← e.height
    let ps ← e.drawType
    .ok (copiesAcross n w ps ++ [.box (n * w) h])
  | grid e n m => do
    let w ← e.width
    let h ← e.height
    let ps ← e.drawType
    .ok (copiesInGrid n m w h ps ++ [.box (n * w) (m * h)])
  | map i o n => .error (.unknownTypeNode (map i o n).kind)
  | bare c => .error (.unknownTypeNode (.bare c))

/-- The nodes with their widths, each once, in the order of their first appearance. -/
def widths : List (Node × Int) → List Node → Except SceneFault (List (Node × Int))
  | known, [] => .ok known
  | known, n :: rest => do
    let w ← n.width
    widths (if known.any fun p => p.1 = n then known else known ++ [(n, w)]) rest

/-- The greatest of the given widths. -/
def widest : Int → List Int → Int
  | w, [] => w
  | w, v :: rest => widest (max w v) rest

/-- How far each node has to be moved to the right so that all are centred on one axis. -/
def align (nodes : List Node) : Except SceneFault (List (Node × Int)) := do
  let ws ← widths [] nodes
  match ws with
  | [] => .error .nothingToAlign
  | (n, w) :: rest =>
    let most := widest w (rest.map (·.2))
    .ok (((n, w) :: rest).map fun p => (p.1, (most - p.2) / 2))

/-- The distance that an alignment gives a node. -/
def shiftOf (node : Node) (alignment : List (Node × Int)) : Int :=
  (alignment.lookup node).getD 0

/-- The drawing of an operation. -/
def drawOperation : Node → Except SceneFault (List Primitive)
  | map i o n => do
    let input := linear i n
    let output := linear o n
    let above ← input.drawType
    let below ← output.drawType
    let gapTop ← input.height
    let wi ← input.width
    let wo ← output.width
    let axis := max wi wo / 2
    let alignment ← align [input, output]
    .ok (shiftAll (shiftOf input alignment) 0 above ++
      shiftAll (shiftOf output alignment) 0 (shiftAll 0 (gapTop + mapGap) below) ++
      [.arrow axis gapTop axis (gapTop + mapGap)])
  | n => .error (.unknownOperationNode n.kind)

/-- The drawing of a node. -/
def draw : Node → Except SceneFault (List Primitive)
  | map i o n => (map i o n).drawOperation
  | bare .operationNode => (bare .operationNode).drawOperation
  | bare .node => .error (.unknownNode (.bare .node))
  | n => n.drawType

end Node

end ArrayScene

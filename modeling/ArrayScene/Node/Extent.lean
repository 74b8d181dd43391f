import ArrayScene.Node.Fault

/-!
# Extent of nodes

The width and the height of a node in units. A number is one unit square. A map reports the wider
of its two elements plus the number of elements, and the heights of both with a gap between them.
-/
namespace ArrayScene

/-- The rows between the input and the output of a map. -/
def mapGap : Int := 5

namespace Node

def width : Node → Except SceneFault Int
  | float => .ok 1
  | linear e n => do
    let w ← e.width
    .ok (w * n)
  | grid e n _ => do
    let w ← e.width
    .ok (w * n)
  | map i o n => do
    let wi ← i.width
    let wo ← o.width
    .ok (max (wi + n) (wo + n))
  | bare c => .error (.unknownNode (.bare c))

def height : Node → Except SceneFault Int
  | float => .ok 1
  | linear e _ => e.height
  | grid e _ n => do
    let h ← e.height
    .ok (h * n)
  | map i o _ => do
    let hi ← i.height
    let ho ← o.height
    .ok (hi + mapGap + ho)
  | bare c => .error (.unknownNode (.bare c))

end Node

end ArrayScene

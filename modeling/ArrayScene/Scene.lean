import ArrayScene.Drawing
import ArrayScene.Node.Building

/-!
# Scenes

A scene holds the primitives of one request, its name, and the extent that its root node reports.
The space that the primitives cover is worked out from them; for an operation the two can differ.
-/
namespace ArrayScene

structure Scene where
  name : String
  primitives : List Primitive
  width : Int
  height : Int
  deriving DecidableEq, Repr

namespace Scene

/-- The greatest of a list of edges, and zero if there is none. -/
def farthest (edges : List Int) : Int := edges.max?.getD 0

/-- The right edge of what is drawn. -/
def drawnWidth (s : Scene) : Int := farthest (s.primitives.map Primitive.right)

/-- The bottom edge of what is drawn. -/
def drawnHeight (s : Scene) : Int := farthest (s.primitives.map Primitive.bottom)

def toJson (s : Scene) : Json.Value :=
  .obj [("type", .str "lift-scene"), ("version", .int 1), ("name", .str s.name),
    ("width", .int s.width), ("height", .int s.height), ("drawn_width", .int s.drawnWidth),
    ("drawn_height", .int s.drawnHeight),
    ("primitives", .arr (s.primitives.map Primitive.toJson))]

/-- The scene of a request: its node is built, then drawn, then measured. -/
def render (rule : SplitRule) (r : Request) : Except SceneFault Scene := do
  let node ← Node.ofSubject rule r.subject
  let primitives ← node.draw
  let width ← node.width
  let height ← node.height
  .ok ⟨r.name, primitives, width, height⟩

end Scene

end ArrayScene

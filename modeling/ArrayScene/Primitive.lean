import ArrayScene.Json.Value

/-!
# Primitives

The marks of a drawing: rectangles for numbers, boxes around arrays, and the arrow of a map, all in
units with the origin at the top left. A plain area is neither a rectangle nor a box; it can be
moved and written like one but has no place in a sketch.
-/
namespace ArrayScene

inductive AreaKind where
  | rectangle | box | plain
  deriving DecidableEq, Repr

/-- The word for a kind of area; a plain area has none. -/
def AreaKind.name : AreaKind → String
  | rectangle => "rectangle"
  | box => "box"
  | plain => ""

inductive Primitive where
  | area (kind : AreaKind) (x y width height : Int)
  | arrow (x₁ y₁ x₂ y₂ : Int)
  deriving DecidableEq, Repr

namespace Primitive

/-- The unit square of a number. -/
def unit : Primitive := .area .rectangle 0 0 1 1

/-- A box with its corner at the origin. -/
def box (width height : Int) : Primitive := .area .box 0 0 width height

def kindName : Primitive → String
  | area kind _ _ _ _ => kind.name
  | arrow _ _ _ _ => "arrow"

/-- The primitive moved by a distance. -/
def shift (dx dy : Int) : Primitive → Primitive
  | area kind x y w h => .area kind (x + dx) (y + dy) w h
  | arrow x₁ y₁ x₂ y₂ => .arrow (x₁ + dx) (y₁ + dy) (x₂ + dx) (y₂ + dy)

/-- The right edge. -/
def right : Primitive → Int
  | area _ x _ w _ => x + w
  | arrow x₁ _ x₂ _ => max x₁ x₂

/-- The bottom edge. -/
def bottom : Primitive → Int
  | area _ _ y _ h => y + h
  | arrow _ y₁ _ y₂ => max y₁ y₂

/-- The fields of a primitive, its kind first. -/
def fields : Primitive → Json.Fields
  | area kind x y w h =>
    [("kind", .str kind.name), ("x", .int x), ("y", .int y), ("width", .int w),
      ("height", .int h)]
  | arrow x₁ y₁ x₂ y₂ =>
    [("kind", .str "arrow"), ("x1", .int x₁), ("y1", .int y₁), ("x2", .int x₂), ("y2", .int y₂)]

def toJson (p : Primitive) : Json.Value := .obj p.fields

@[simp] theorem shift_zero (p : Primitive) : p.shift 0 0 = p := by
  cases p <;> simp [shift]

theorem shift_shift (a b c d : Int) (p : Primitive) :
    (p.shift a b).shift c d = p.shift (a + c) (b + d) := by
  cases p <;> simp [shift, Int.add_assoc]

@[simp] theorem kindName_shift (dx dy : Int) (p : Primitive) :
    (p.shift dx dy).kindName = p.kindName := by
  cases p <;> rfl

@[simp] theorem right_shift (dx dy : Int) (p : Primitive) :
    (p.shift dx dy).right = p.right + dx := by
  cases p <;> simp only [shift, right] <;> omega

@[simp] theorem bottom_shift (dx dy : Int) (p : Primitive) :
    (p.shift dx dy).bottom = p.bottom + dy := by
  cases p <;> simp only [shift, bottom] <;> omega

end Primitive

/-- Every primitive of a list moved by a distance. -/
def shiftAll (dx dy : Int) (ps : List Primitive) : List Primitive := ps.map (Primitive.shift dx dy)

/-- The lists that a sequence of moves goes through. -/
def shiftSteps (ps : List Primitive) : List (Int × Int) → List (List Primitive)
  | [] => []
  | (dx, dy) :: rest => shiftAll dx dy ps :: shiftSteps (shiftAll dx dy ps) rest

end ArrayScene

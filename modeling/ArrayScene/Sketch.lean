import ArrayScene.Identifier.NameId
import ArrayScene.Json.Writer
import ArrayScene.Scene

/-!
# Sketches

A scene as a document of a drawing program: one element for each primitive, in order, with its
geometry in pixels. An element also keeps the primitive it was made from, the name of the scene and
its place in it. The two random numbers that an element carries are given from outside.
-/
namespace ArrayScene

/-- The random numbers of the elements, by their place. -/
abbrev Seeds := Nat → Int × Int

inductive SketchFault where
  | unitSize (given : Int)
  /-- A plain area has no place in a sketch. -/
  | plainArea
  deriving DecidableEq, Repr

def SketchFault.message : SketchFault → String
  | unitSize given => "unit_size must be positive, got " ++ String.ofList (Decimal.ofInt given)
  | plainArea => "Unknown primitive: _AreaPrimitive"

/-- What an element looks like. -/
inductive Figure where
  /-- A filled square with a thin line. -/
  | filled
  /-- An empty frame with a thick line. -/
  | frame
  /-- A line from the corner of the element to a point, with a head. -/
  | arrow (dx dy : Int)
  deriving DecidableEq, Repr

structure Element where
  scene : String
  index : Nat
  primitive : Primitive
  x : Int
  y : Int
  width : Int
  height : Int
  figure : Figure
  seeds : Int × Int
  deriving DecidableEq, Repr

structure Sketch where
  elements : List Element
  unitSize : Int
  deriving DecidableEq, Repr

namespace Element

/-- The text that the identifier of an element is made from. -/
def idText (scene kind : String) (index : Nat) : String :=
  scene ++ "|" ++ kind ++ "|" ++ toString index

/-- The space of the identifiers of elements. -/
def idSpace : NameId := NameId.domainNames.ofName "lift-scene"

def id (e : Element) : NameId := idSpace.ofName (idText e.scene e.primitive.kindName e.index)

/-- The element of a primitive, `unit` pixels to a unit. -/
def ofPrimitive (unit : Int) (seeds : Seeds) (scene : String) (index : Nat) :
    Primitive → Except SketchFault Element
  | .area .rectangle x y w h =>
    .ok ⟨scene, index, .area .rectangle x y w h, x * unit, y * unit, w * unit, h * unit, .filled,
      seeds index⟩
  | .area .box x y w h =>
    .ok ⟨scene, index, .area .box x y w h, x * unit, y * unit, w * unit, h * unit, .frame,
      seeds index⟩
  | .area .plain _ _ _ _ => .error .plainArea
  | .arrow x₁ y₁ x₂ y₂ =>
    let dx := (x₂ - x₁) * unit
    let dy := (y₂ - y₁) * unit
    .ok ⟨scene, index, .arrow x₁ y₁ x₂ y₂, x₁ * unit, y₁ * unit, dx.natAbs, dy.natAbs,
      .arrow dx dy, seeds index⟩

/-- The colour of lines. -/
def lineColour : String := "#1e1e1e"

/-- What an element was made from. -/
def originJson (e : Element) : Json.Value :=
  .obj (("scene", .str e.scene) :: ("index", .int e.index) :: e.primitive.fields)

/-- The fields that every element has. -/
def commonFields (e : Element) : Json.Fields :=
  [("id", .str e.id.text),
    ("type", .str (match e.figure with | .arrow _ _ => "arrow" | _ => "rectangle")),
    ("x", .int e.x), ("y", .int e.y), ("width", .int e.width), ("height", .int e.height),
    ("angle", .int 0), ("strokeWidth", .int (match e.figure with | .frame => 2 | _ => 1)),
    ("strokeStyle", .str "solid"), ("roughness", .int 0), ("opacity", .int 100),
    ("groupIds", .arr []),
    ("roundness", match e.figure with | .arrow _ _ => .obj [("type", .int 2)] | _ => .null),
    ("seed", .int e.seeds.1), ("version", .int 1), ("versionNonce", .int e.seeds.2),
    ("isDeleted", .bool false), ("boundElements", .arr []), ("locked", .bool false),
    ("frameId", .null), ("customData", .obj [("lift_scene", e.originJson)]),
    ("strokeColor", .str lineColour)]

/-- The fields that differ with the figure. -/
def figureFields : Figure → Json.Fields
  | .filled => [("backgroundColor", .str "#cce5ff"), ("fillStyle", .str "solid")]
  | .frame => [("backgroundColor", .str "transparent"), ("fillStyle", .str "solid")]
  | .arrow dx dy =>
    [("backgroundColor", .str "transparent"), ("fillStyle", .str "solid"),
      ("points", .arr [.arr [.int 0, .int 0], .arr [.int dx, .int dy]]),
      ("startBinding", .null), ("endBinding", .null), ("startArrowhead", .null),
      ("endArrowhead", .str "arrow")]

def toJson (e : Element) : Json.Value := .obj (e.commonFields ++ figureFields e.figure)

/-- The elements of a list of primitives, the first of which has the place `index`. -/
def ofPrimitives (unit : Int) (seeds : Seeds) (scene : String) :
    Nat → List Primitive → Except SketchFault (List Element)
  | _, [] => .ok []
  | index, p :: ps => do
    let e ← ofPrimitive unit seeds scene index p
    let es ← ofPrimitives unit seeds scene (index + 1) ps
    .ok (e :: es)

end Element

/-- A document of the drawing program with the given parts. -/
def sketchDocument (elements appState files : Json.Value) : Json.Value :=
  .obj [("type", .str "excalidraw"), ("version", .int 2), ("source", .str "lift-scene"),
    ("elements", elements), ("appState", appState), ("files", files)]

namespace Sketch

/-- The sketch of a scene, `unit` pixels to a unit. -/
def ofScene (unit : Int) (seeds : Seeds) (s : Scene) : Except SketchFault Sketch :=
  if unit ≤ 0 then .error (.unitSize unit)
  else do
    let elements ← Element.ofPrimitives unit seeds s.name 0 s.primitives
    .ok ⟨elements, unit⟩

/-- The settings of the canvas. -/
def canvas (s : Sketch) : Json.Value :=
  .obj [("viewBackgroundColor", .str "#ffffff"), ("gridSize", .int s.unitSize),
    ("currentItemStrokeColor", .str Element.lineColour)]

def toJson (s : Sketch) : Json.Value :=
  sketchDocument (.arr (s.elements.map Element.toJson)) s.canvas (.obj [])

end Sketch

end ArrayScene

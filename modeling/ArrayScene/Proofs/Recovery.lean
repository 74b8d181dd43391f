import ArrayScene.Scene

/-!
# Scenes out of their documents

How the primitives of a scene, its name and its size are found again in the fields of a document.
The readers ask for keys alone, whatever else the document holds and in whatever order, so they
serve for a scene's own document and for the origin that an element of a sketch keeps.
-/
namespace ArrayScene

namespace Json

/-- The integer under a key. -/
def int? (key : String) (fields : Fields) : Option Int :=
  match get? key fields with
  | some (.int n) => some n
  | _ => none

/-- The text under a key. -/
def text? (key : String) (fields : Fields) : Option String :=
  match get? key fields with
  | some (.str s) => some s
  | _ => none

/-- The items of the array under a key. -/
def items? (key : String) (fields : Fields) : Option (List Value) :=
  match get? key fields with
  | some (.arr items) => some items
  | _ => none

/-- The fields of the object under a key. -/
def fields? (key : String) (fields : Fields) : Option Fields :=
  match get? key fields with
  | some (.obj within) => some within
  | _ => none

end Json

/-- The kind of area with a name. -/
def AreaKind.ofName? (name : String) : Option AreaKind :=
  [rectangle, box, plain].find? (·.name = name)

@[simp] theorem AreaKind.ofName?_name (kind : AreaKind) : ofName? kind.name = some kind := by
  cases kind <;> decide

theorem AreaKind.name_ne_arrow (kind : AreaKind) : kind.name ≠ "arrow" := by
  cases kind <;> decide

namespace Primitive

/-- The primitive that some fields describe. -/
def ofFields? (fields : Json.Fields) : Option Primitive := do
  let name ← Json.text? "kind" fields
  if name = "arrow" then
    some (.arrow (← Json.int? "x1" fields) (← Json.int? "y1" fields) (← Json.int? "x2" fields)
      (← Json.int? "y2" fields))
  else
    some (.area (← AreaKind.ofName? name) (← Json.int? "x" fields) (← Json.int? "y" fields)
      (← Json.int? "width" fields) (← Json.int? "height" fields))

theorem ofFields?_area {fields : Json.Fields} {kind : AreaKind} {x y w h : Int}
    (name : Json.text? "kind" fields = some kind.name) (left : Json.int? "x" fields = some x)
    (top : Json.int? "y" fields = some y) (width : Json.int? "width" fields = some w)
    (height : Json.int? "height" fields = some h) :
    ofFields? fields = some (.area kind x y w h) := by
  simp [ofFields?, name, kind.name_ne_arrow, left, top, width, height]

theorem ofFields?_arrow {fields : Json.Fields} {x₁ y₁ x₂ y₂ : Int}
    (name : Json.text? "kind" fields = some "arrow") (left : Json.int? "x1" fields = some x₁)
    (top : Json.int? "y1" fields = some y₁) (right : Json.int? "x2" fields = some x₂)
    (bottom : Json.int? "y2" fields = some y₂) :
    ofFields? fields = some (.arrow x₁ y₁ x₂ y₂) := by
  simp [ofFields?, name, left, top, right, bottom]

/-- The fields of a primitive describe it. -/
@[simp] theorem ofFields?_fields (p : Primitive) : ofFields? p.fields = some p := by
  cases p with
  | area kind x y w h => exact ofFields?_area rfl rfl rfl rfl rfl
  | arrow x₁ y₁ x₂ y₂ => exact ofFields?_arrow rfl rfl rfl rfl rfl

/-- The primitive that a value describes. -/
def ofJson? : Json.Value → Option Primitive
  | .obj fields => ofFields? fields
  | _ => none

@[simp] theorem ofJson?_toJson (p : Primitive) : ofJson? p.toJson = some p := p.ofFields?_fields

end Primitive

namespace Scene

/-- The scene that the fields of a document describe; its drawn size is not asked for. -/
def ofFields? (fields : Json.Fields) : Option Scene := do
  let name ← Json.text? "name" fields
  let width ← Json.int? "width" fields
  let height ← Json.int? "height" fields
  let items ← Json.items? "primitives" fields
  let primitives ← items.mapM Primitive.ofJson?
  some ⟨name, primitives, width, height⟩

theorem mapM_ofJson?_toJson (ps : List Primitive) :
    (ps.map Primitive.toJson).mapM Primitive.ofJson? = some ps := by
  induction ps with
  | nil => rfl
  | cons p ps ih => simp [ih]

/-- The document of a scene, as fields. -/
def fields (s : Scene) : Json.Fields :=
  [("type", .str "lift-scene"), ("version", .int 1), ("name", .str s.name),
    ("width", .int s.width), ("height", .int s.height), ("drawn_width", .int s.drawnWidth),
    ("drawn_height", .int s.drawnHeight),
    ("primitives", .arr (s.primitives.map Primitive.toJson))]

theorem toJson_eq_fields (s : Scene) : s.toJson = .obj s.fields := rfl

/-- The document of a scene describes it. -/
@[simp] theorem ofFields?_fields (s : Scene) : ofFields? s.fields = some s := by
  have name : Json.text? "name" s.fields = some s.name := rfl
  have width : Json.int? "width" s.fields = some s.width := rfl
  have height : Json.int? "height" s.fields = some s.height := rfl
  have items : Json.items? "primitives" s.fields = some (s.primitives.map Primitive.toJson) := rfl
  simp only [ofFields?, name, width, height, items, mapM_ofJson?_toJson, Option.bind_eq_bind,
    Option.bind_some]

end Scene

end ArrayScene

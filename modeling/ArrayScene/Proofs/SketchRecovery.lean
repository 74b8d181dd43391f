import ArrayScene.Sketch
import ArrayScene.Proofs.Arrays
import ArrayScene.Proofs.Recovery
import Mathlib.Data.List.Forall2
import Mathlib.Tactic.Ring

/-!
# Scenes out of sketches

An element of a sketch holds its primitive twice: as it was, among what the element was made from,
and multiplied by the unit size, in what the drawing program shows. Each of the two gives the
primitive back, so a sketch loses nothing of its scene. Sketches of one scene with two unit sizes
are the same but for the pixels, which are in the proportion of the sizes.
-/
namespace ArrayScene

/-- Whether a primitive has a place in a sketch. -/
def Primitive.isSketchable : Primitive → Bool
  | area .plain _ _ _ _ => false
  | _ => true

/-- The number of units that a number of pixels is, if it is a whole one. -/
def units? (unit pixels : Int) : Option Int :=
  if unit ∣ pixels then some (pixels / unit) else none

theorem units?_mul {unit : Int} (positive : 1 ≤ unit) (n : Int) :
    units? unit (n * unit) = some n := by
  rw [units?, if_pos (Int.dvd_mul_left n unit), Int.mul_ediv_cancel n (by omega)]

namespace Element

/-- What an element in a document was made from: the name of the scene, the place in it, and the
primitive. -/
def origin? : Json.Value → Option (String × Int × Primitive)
  | .obj fields => do
    let data ← Json.fields? "customData" fields
    let origin ← Json.fields? "lift_scene" data
    some (← Json.text? "scene" origin, ← Json.int? "index" origin, ← Primitive.ofFields? origin)
  | _ => none

/-- The kind of an area by what it is filled with. -/
def kindByFill? (fields : Json.Fields) : Option AreaKind :=
  match Json.text? "backgroundColor" fields with
  | some "#cce5ff" => some .rectangle
  | some "transparent" => some .box
  | _ => none

/-- The kind of an area by the width of its line. -/
def kindByLine? (fields : Json.Fields) : Option AreaKind :=
  match Json.int? "strokeWidth" fields with
  | some 1 => some .rectangle
  | some 2 => some .box
  | _ => none

/-- The second point of a line, from its first one at the corner of the element. -/
def secondPoint? (fields : Json.Fields) : Option (Int × Int) :=
  match Json.items? "points" fields with
  | some [.arr [.int 0, .int 0], .arr [.int dx, .int dy]] => some (dx, dy)
  | _ => none

/-- The primitive that an element in a document shows with so many pixels to a unit; `kind?` tells
the kinds of areas apart. -/
def shown? (kind? : Json.Fields → Option AreaKind) (unit : Int) : Json.Value → Option Primitive
  | .obj fields => do
    let type ← Json.text? "type" fields
    let x ← units? unit (← Json.int? "x" fields)
    let y ← units? unit (← Json.int? "y" fields)
    if type = "arrow" then do
      let (dx, dy) ← secondPoint? fields
      some (.arrow x y (x + (← units? unit dx)) (y + (← units? unit dy)))
    else do
      let width ← units? unit (← Json.int? "width" fields)
      let height ← units? unit (← Json.int? "height" fields)
      some (.area (← kind? fields) x y width height)
  | _ => none

/-- An element is made of every primitive but a plain area. -/
theorem ofPrimitive_of_isSketchable (unit : Int) (seeds : Seeds) (scene : String) (index : Nat)
    {p : Primitive} (sketchable : p.isSketchable = true) :
    ∃ e, ofPrimitive unit seeds scene index p = .ok e := by
  cases p with
  | area kind x y w h =>
    cases kind with
    | rectangle => exact ⟨_, rfl⟩
    | box => exact ⟨_, rfl⟩
    | plain => cases sketchable
  | arrow x₁ y₁ x₂ y₂ => exact ⟨_, rfl⟩

theorem ofPrimitive_of_not_isSketchable {unit : Int} {seeds : Seeds} {scene : String} {index : Nat}
    {p : Primitive} (plain : p.isSketchable = false) :
    ofPrimitive unit seeds scene index p = .error .plainArea := by
  cases p with
  | area kind x y w h =>
    cases kind with
    | rectangle => cases plain
    | box => cases plain
    | plain => rfl
  | arrow x₁ y₁ x₂ y₂ => cases plain

section Made

variable {unit : Int} {seeds : Seeds} {scene : String} {index : Nat} {p : Primitive} {e : Element}

/-- An element tells what it was made from. -/
theorem origin?_toJson (made : ofPrimitive unit seeds scene index p = .ok e) :
    origin? e.toJson = some (scene, (index : Int), p) := by
  cases p with
  | area kind x y w h =>
    cases kind with
    | rectangle => cases made; rfl
    | box => cases made; rfl
    | plain => cases made
  | arrow x₁ y₁ x₂ y₂ => cases made; rfl

/-- An element holds what it was made from. -/
theorem parts_of_ofPrimitive (made : ofPrimitive unit seeds scene index p = .ok e) :
    e.scene = scene ∧ e.index = index ∧ e.primitive = p ∧ e.seeds = seeds index := by
  cases p with
  | area kind x y w h =>
    cases kind with
    | rectangle => cases made; exact ⟨rfl, rfl, rfl, rfl⟩
    | box => cases made; exact ⟨rfl, rfl, rfl, rfl⟩
    | plain => cases made
  | arrow x₁ y₁ x₂ y₂ => cases made; exact ⟨rfl, rfl, rfl, rfl⟩

variable {kind? : Json.Fields → Option AreaKind} {fields : Json.Fields}

theorem shown?_area {kind : AreaKind} {x y w h : Int} (positive : 1 ≤ unit)
    (type : Json.text? "type" fields = some "rectangle")
    (left : Json.int? "x" fields = some (x * unit)) (top : Json.int? "y" fields = some (y * unit))
    (width : Json.int? "width" fields = some (w * unit))
    (height : Json.int? "height" fields = some (h * unit)) (told : kind? fields = some kind) :
    shown? kind? unit (.obj fields) = some (.area kind x y w h) := by
  simp [shown?, type, left, top, width, height, told, units?_mul positive]

theorem shown?_arrow {x₁ y₁ x₂ y₂ : Int} (positive : 1 ≤ unit)
    (type : Json.text? "type" fields = some "arrow")
    (left : Json.int? "x" fields = some (x₁ * unit)) (top : Json.int? "y" fields = some (y₁ * unit))
    (points : secondPoint? fields = some ((x₂ - x₁) * unit, (y₂ - y₁) * unit)) :
    shown? kind? unit (.obj fields) = some (.arrow x₁ y₁ x₂ y₂) := by
  simp [shown?, type, left, top, points, units?_mul positive]

/-- The pixels of an element show its primitive, whether its fill or its line is looked at. -/
theorem shown?_toJson (positive : 1 ≤ unit) (made : ofPrimitive unit seeds scene index p = .ok e) :
    shown? kindByFill? unit e.toJson = some p ∧ shown? kindByLine? unit e.toJson = some p := by
  cases p with
  | area kind x y w h =>
    cases kind with
    | rectangle =>
      cases made
      exact ⟨shown?_area positive rfl rfl rfl rfl rfl rfl,
        shown?_area positive rfl rfl rfl rfl rfl rfl⟩
    | box =>
      cases made
      exact ⟨shown?_area positive rfl rfl rfl rfl rfl rfl,
        shown?_area positive rfl rfl rfl rfl rfl rfl⟩
    | plain => cases made
  | arrow x₁ y₁ x₂ y₂ =>
    cases made
    exact ⟨shown?_arrow positive rfl rfl rfl rfl, shown?_arrow positive rfl rfl rfl rfl⟩

end Made

/-- The keys whose values are measured in pixels. -/
def pixelKeys : List String := ["x", "y", "width", "height", "points"]

/-- The keys whose values are random. -/
def seedKeys : List String := ["seed", "versionNonce"]

mutual

/-- A value with all its integers multiplied. -/
def times (k : Int) : Json.Value → Json.Value
  | .int n => .int (k * n)
  | .arr items => .arr (timesItems k items)
  | v => v

def timesItems (k : Int) : List Json.Value → List Json.Value
  | [] => []
  | v :: vs => times k v :: timesItems k vs

end

/-- Two fields of elements with `u` and with `v` pixels to a unit: of one key, with values in that
proportion if they are measured in pixels and with the same value otherwise, unless it is random. -/
def SameButPixels (u v : Int) (p q : String × Json.Value) : Prop :=
  p.1 = q.1 ∧
    if p.1 ∈ pixelKeys then times v p.2 = times u q.2 else p.1 ∉ seedKeys → p.2 = q.2

/-- Two elements in documents that are the same, field by field, but for pixels and random
numbers. -/
def Rescaled (u v : Int) : Json.Value → Json.Value → Prop
  | .obj fields, .obj fields' => List.Forall₂ (SameButPixels u v) fields fields'
  | _, _ => False

/-- Two elements of one primitive whose pixels are in the proportion of `u` and `v`. -/
structure Proportional (u v : Int) (e e' : Element) : Prop where
  scene : e.scene = e'.scene
  index : e.index = e'.index
  primitive : e.primitive = e'.primitive
  x : v * e.x = u * e'.x
  y : v * e.y = u * e'.y
  width : v * e.width = u * e'.width
  height : v * e.height = u * e'.height
  figure : match e.figure, e'.figure with
    | .arrow dx dy, .arrow dx' dy' => v * dx = u * dx' ∧ v * dy = u * dy'
    | .filled, .filled | .frame, .frame => True
    | _, _ => False

theorem Proportional.rescaled {u v : Int} {e e' : Element} (proportional : Proportional u v e e') :
    Rescaled u v e.toJson e'.toJson := by
  obtain ⟨scene, index, primitive, x, y, width, height, figure⟩ := proportional
  have id : e.id = e'.id := by simp only [Element.id, scene, index, primitive]
  have origin : e.originJson = e'.originJson := by
    simp only [originJson, scene, index, primitive]
  cases first : e.figure <;> cases second : e'.figure <;> simp only [first, second] at figure <;>
    simp [toJson, commonFields, figureFields, Rescaled, SameButPixels, pixelKeys, seedKeys, times,
      timesItems, first, second, id, origin, x, y, width, height, figure]

theorem mul_natAbs_mul {u v : Int} (hu : 1 ≤ u) (hv : 1 ≤ v) (n : Int) :
    v * ((n * u).natAbs : Int) = u * ((n * v).natAbs : Int) := by
  rw [Int.natAbs_mul, Int.natAbs_mul, Int.natCast_mul, Int.natCast_mul,
    Int.natAbs_of_nonneg (by omega : 0 ≤ u), Int.natAbs_of_nonneg (by omega : 0 ≤ v)]
  ring

/-- The elements of one primitive with two unit sizes. -/
theorem proportional_of_made {u v : Int} {seeds seeds' : Seeds} {scene : String} {index : Nat}
    {p : Primitive} {e e' : Element} (hu : 1 ≤ u) (hv : 1 ≤ v)
    (made : ofPrimitive u seeds scene index p = .ok e)
    (made' : ofPrimitive v seeds' scene index p = .ok e') : Proportional u v e e' := by
  have cross (n : Int) : v * (n * u) = u * (n * v) := by ring
  cases p with
  | area kind x y w h =>
    cases kind with
    | rectangle =>
      cases made
      cases made'
      exact ⟨rfl, rfl, rfl, cross x, cross y, cross w, cross h, trivial⟩
    | box =>
      cases made
      cases made'
      exact ⟨rfl, rfl, rfl, cross x, cross y, cross w, cross h, trivial⟩
    | plain => cases made
  | arrow x₁ y₁ x₂ y₂ =>
    cases made
    cases made'
    exact ⟨rfl, rfl, rfl, cross x₁, cross y₁, mul_natAbs_mul hu hv (x₂ - x₁),
      mul_natAbs_mul hu hv (y₂ - y₁), cross (x₂ - x₁), cross (y₂ - y₁)⟩

/-- The elements of a list of primitives are those of its primitives, each with its place. -/
theorem made_of_ofPrimitives {unit : Int} {seeds : Seeds} {scene : String} {index : Nat}
    {ps : List Primitive} {es : List Element}
    (made : ofPrimitives unit seeds scene index ps = .ok es) :
    List.Forall₂ (fun q e => ofPrimitive unit seeds scene q.2 q.1 = .ok e)
      (ps.zipIdx index) es := by
  induction ps generalizing index es with
  | nil =>
    cases made
    exact .nil
  | cons p ps ih =>
    obtain ⟨e, first, afterFirst⟩ := exists_of_bind_eq_ok made
    obtain ⟨rest, later, last⟩ := exists_of_bind_eq_ok afterFirst
    cases last
    exact .cons first (ih later)

/-- The element at a place is that of the primitive at the place. -/
theorem exists_of_getElem?_ofPrimitives {unit : Int} {seeds : Seeds} {scene : String}
    {ps : List Primitive} {es : List Element} {i : Nat} {e : Element}
    (made : ofPrimitives unit seeds scene 0 ps = .ok es) (found : es[i]? = some e) :
    ∃ p, ps[i]? = some p ∧ ofPrimitive unit seeds scene i p = .ok e := by
  obtain ⟨length, each⟩ := List.forall₂_iff_get.mp (made_of_ofPrimitives made)
  obtain ⟨inside, rfl⟩ := List.getElem?_eq_some_iff.mp found
  rw [List.length_zipIdx] at length
  have at_place := each i (by rw [List.length_zipIdx]; omega) inside
  simp only [List.get_eq_getElem, List.getElem_zipIdx, Nat.zero_add] at at_place
  exact ⟨_, List.getElem?_eq_getElem (by omega), at_place⟩

theorem ofPrimitives_of_isSketchable (unit : Int) (seeds : Seeds) (scene : String) (index : Nat)
    {ps : List Primitive} (sketchable : ∀ p ∈ ps, p.isSketchable = true) :
    ∃ es, ofPrimitives unit seeds scene index ps = .ok es := by
  induction ps generalizing index with
  | nil => exact ⟨[], rfl⟩
  | cons p ps ih =>
    rw [List.forall_mem_cons] at sketchable
    obtain ⟨e, first⟩ := ofPrimitive_of_isSketchable unit seeds scene index sketchable.1
    obtain ⟨es, later⟩ := ih (index + 1) sketchable.2
    refine ⟨e :: es, ?_⟩
    simp only [ofPrimitives, first, later, bind, Except.bind]

/-- A plain area stops the conversion, wherever it stands. -/
theorem ofPrimitives_of_plain {unit : Int} {seeds : Seeds} {scene : String} {index : Nat}
    {ps : List Primitive} (plain : ∃ p ∈ ps, p.isSketchable = false) :
    ofPrimitives unit seeds scene index ps = .error .plainArea := by
  induction ps generalizing index with
  | nil => simp at plain
  | cons p ps ih =>
    rw [ofPrimitives]
    cases first : p.isSketchable with
    | false =>
      rw [ofPrimitive_of_not_isSketchable first]
      rfl
    | true =>
      have later : ∃ p ∈ ps, p.isSketchable = false := by
        obtain ⟨q, member, unsketchable⟩ := plain
        rcases List.mem_cons.mp member with rfl | member
        · rw [first] at unsketchable
          cases unsketchable
        · exact ⟨q, member, unsketchable⟩
      obtain ⟨e, made⟩ := ofPrimitive_of_isSketchable unit seeds scene index first
      rw [made, ih later]
      rfl

end Element

theorem map_eq_map_of_forall₂ {α β γ : Type} {R : α → β → Prop} {f : α → γ} {g : β → γ}
    (agree : ∀ a b, R a b → g b = f a) {as : List α} {bs : List β}
    (related : List.Forall₂ R as bs) :
    bs.map g = as.map f := by
  induction related with
  | nil => rfl
  | cons first _ ih => rw [List.map_cons, List.map_cons, agree _ _ first, ih]

theorem Element.map_origin?_of_made {unit : Int} {seeds : Seeds} {scene : String} {index : Nat}
    {ps : List Primitive} {es : List Element}
    (made : ofPrimitives unit seeds scene index ps = .ok es) :
    (es.map toJson).map origin? =
      (ps.zipIdx index).map fun q => some (scene, (q.2 : Int), q.1) := by
  rw [List.map_map]
  refine map_eq_map_of_forall₂ ?_ (made_of_ofPrimitives made)
  intro q e made
  exact origin?_toJson made

theorem Element.map_shown?_of_made {unit : Int} {seeds : Seeds} {scene : String} {index : Nat}
    {ps : List Primitive} {es : List Element} (positive : 1 ≤ unit)
    (made : ofPrimitives unit seeds scene index ps = .ok es) :
    (es.map toJson).map (shown? kindByFill? unit) = ps.map some ∧
      (es.map toJson).map (shown? kindByLine? unit) = ps.map some := by
  have each := made_of_ofPrimitives made
  have unplaced : (ps.zipIdx index).map (some ∘ Prod.fst) = ps.map some := by
    rw [← List.map_map, List.zipIdx_map_fst]
  rw [List.map_map, List.map_map, ← unplaced]
  constructor
  · refine map_eq_map_of_forall₂ ?_ each
    intro q e made
    exact (shown?_toJson positive made).1
  · refine map_eq_map_of_forall₂ ?_ each
    intro q e made
    exact (shown?_toJson positive made).2

/-- The elements of one list of primitives with two unit sizes. -/
theorem Element.rescaled_of_made {u v : Int} {seeds seeds' : Seeds} {scene : String} {index : Nat}
    {ps : List Primitive} {es es' : List Element} (hu : 1 ≤ u) (hv : 1 ≤ v)
    (made : ofPrimitives u seeds scene index ps = .ok es)
    (made' : ofPrimitives v seeds' scene index ps = .ok es') :
    List.Forall₂ (Rescaled u v) (es.map toJson) (es'.map toJson) := by
  have each := made_of_ofPrimitives made
  have each' := made_of_ofPrimitives made'
  generalize ps.zipIdx index = placed at each each'
  clear made made'
  induction each generalizing es' with
  | nil =>
    cases each'
    exact .nil
  | cons first _ ih =>
    cases each' with
    | cons first' rest' => exact .cons (proportional_of_made hu hv first first').rescaled (ih rest')

theorem Sketch.made_of_ofScene {unit : Int} {seeds : Seeds} {s : Scene} {sketch : Sketch}
    (converted : Sketch.ofScene unit seeds s = .ok sketch) :
    Element.ofPrimitives unit seeds s.name 0 s.primitives = .ok sketch.elements := by
  unfold Sketch.ofScene at converted
  split at converted
  · cases converted
  · obtain ⟨elements, made, last⟩ := exists_of_bind_eq_ok converted
    cases last
    exact made

theorem Sketch.ofScene_of_made {unit : Int} {seeds : Seeds} {s : Scene} {es : List Element}
    (positive : 1 ≤ unit) (made : Element.ofPrimitives unit seeds s.name 0 s.primitives = .ok es) :
    Sketch.ofScene unit seeds s = .ok ⟨es, unit⟩ := by
  rw [Sketch.ofScene, if_neg (by omega), made]
  rfl

theorem Sketch.ofScene_of_plain {unit : Int} {s : Scene} (positive : 1 ≤ unit) (seeds : Seeds)
    (plain : ∃ p ∈ s.primitives, p.isSketchable = false) :
    Sketch.ofScene unit seeds s = .error .plainArea := by
  rw [Sketch.ofScene, if_neg (by omega), Element.ofPrimitives_of_plain plain]
  rfl

/-- A scene has a sketch if and only if none of its primitives is a plain area, which is then what
stops the conversion. The elements of the sketch are those of the primitives in their order: what
an element was made from is the name of the scene, the place and the primitive, and its pixels,
divided by the unit size, show the primitive, whether areas are told apart by their fill or by
their line. With another unit size the elements differ in their pixels, which are in proportion,
and in their random numbers only. -/
theorem sketch_recovers_scene {u : Int} (positive : 1 ≤ u) (seeds : Seeds) (s : Scene) :
    ((∃ sketch, Sketch.ofScene u seeds s = .ok sketch) ↔
        ∀ p ∈ s.primitives, p.isSketchable = true) ∧
      ((∃ p ∈ s.primitives, p.isSketchable = false) →
        Sketch.ofScene u seeds s = .error .plainArea) ∧
      ∀ sketch, Sketch.ofScene u seeds s = .ok sketch →
        ∃ elements, sketch.toJson = sketchDocument (.arr elements) sketch.canvas (.obj []) ∧
          elements.map Element.origin? =
            s.primitives.zipIdx.map (fun q => some (s.name, (q.2 : Int), q.1)) ∧
          elements.map (Element.shown? Element.kindByFill? u) = s.primitives.map some ∧
          elements.map (Element.shown? Element.kindByLine? u) = s.primitives.map some ∧
          ∀ v seeds' sketch', 1 ≤ v → Sketch.ofScene v seeds' s = .ok sketch' →
            ∃ elements',
              sketch'.toJson = sketchDocument (.arr elements') sketch'.canvas (.obj []) ∧
              List.Forall₂ (Element.Rescaled u v) elements elements' := by
  have stopped := Sketch.ofScene_of_plain (s := s) positive seeds
  refine ⟨⟨?_, ?_⟩, stopped, ?_⟩
  · rintro ⟨sketch, converted⟩ p member
    cases sketchable : p.isSketchable with
    | true => rfl
    | false =>
      rw [stopped ⟨p, member, sketchable⟩] at converted
      cases converted
  · intro sketchable
    obtain ⟨es, made⟩ := Element.ofPrimitives_of_isSketchable u seeds s.name 0 sketchable
    exact ⟨_, Sketch.ofScene_of_made positive made⟩
  · intro sketch converted
    have made := Sketch.made_of_ofScene converted
    obtain ⟨byFill, byLine⟩ := Element.map_shown?_of_made positive made
    refine ⟨_, rfl, Element.map_origin?_of_made made, byFill, byLine, ?_⟩
    intro v seeds' sketch' positive' converted'
    have made' := Sketch.made_of_ofScene converted'
    exact ⟨_, rfl, Element.rescaled_of_made positive positive' made made'⟩

/-- A rectangle, a box and an arrow that points to the left and up, with twenty pixels to a unit and
with seven. -/
theorem sketch_recovers_backward_arrow :
    let s : Scene := ⟨"a|b", [.unit, .box 2 1, .arrow 3 4 1 (-2)], 2, 1⟩
    (1 : Int) ≤ 20 ∧ (1 : Int) ≤ 7 ∧ ∃ sketch sketch' elements elements',
      Sketch.ofScene 20 (fun i => (i + 1, i + 2)) s = .ok sketch ∧
      Sketch.ofScene 7 (fun i => (i + 5, i + 3)) s = .ok sketch' ∧
      sketch.toJson = sketchDocument (.arr elements) sketch.canvas (.obj []) ∧
      elements.map Element.origin? =
        [some ("a|b", 0, .unit), some ("a|b", 1, .box 2 1), some ("a|b", 2, .arrow 3 4 1 (-2))] ∧
      elements.map (Element.shown? Element.kindByLine? 20) =
        [some .unit, some (.box 2 1), some (.arrow 3 4 1 (-2))] ∧
      List.Forall₂ (Element.Rescaled 20 7) elements elements' := by
  intro s
  have positive : (1 : Int) ≤ 20 := by decide
  have positive' : (1 : Int) ≤ 7 := by decide
  obtain ⟨converts, _, recovers⟩ := sketch_recovers_scene positive (fun i => (i + 1, i + 2)) s
  obtain ⟨sketch, converted⟩ := converts.mpr (by decide)
  obtain ⟨elements, document, origins, _, byLine, rescaled⟩ := recovers sketch converted
  obtain ⟨converts', _, _⟩ := sketch_recovers_scene positive' (fun i => (i + 5, i + 3)) s
  obtain ⟨sketch', converted'⟩ := converts'.mpr (by decide)
  obtain ⟨elements', _, related⟩ := rescaled 7 _ sketch' positive' converted'
  exact ⟨positive, positive', sketch, sketch', elements, elements', converted, converted', document,
    origins, byLine, related⟩

end ArrayScene

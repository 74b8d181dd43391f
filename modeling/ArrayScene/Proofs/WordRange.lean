import ArrayScene.Proofs.DrawnSize
import ArrayScene.Proofs.RenderFaults
import ArrayScene.Proofs.SavedDocuments

/-!
# Integers that can be written

Only integers of 64 bits can be written. A rendered scene lies between the origin and its drawn
size, so its two drawn and its two reported sizes alone decide whether its document can be written,
and none of its integers is negative. The pixels of its sketch are whole units within the drawn
size, so the scaled size decides about the sketch.
-/
namespace ArrayScene

namespace Json

mutual

/-- The integers of a value. -/
def integers : Value → List Int
  | .int n => [n]
  | .arr items => itemIntegers items
  | .obj fields => fieldIntegers fields
  | _ => []

def itemIntegers : List Value → List Int
  | [] => []
  | v :: vs => integers v ++ itemIntegers vs

def fieldIntegers : Fields → List Int
  | [] => []
  | (_, v) :: fields => integers v ++ fieldIntegers fields

end

theorem mem_itemIntegers {n : Int} {vs : List Value} :
    n ∈ itemIntegers vs ↔ ∃ v ∈ vs, n ∈ integers v := by
  induction vs with
  | nil => simp [itemIntegers]
  | cons v vs ih => simp [itemIntegers, ih]

mutual

/-- A value can be written if each of its integers can. -/
theorem writable_iff_integers : ∀ v : Value,
    writable v = true ↔ ∀ n ∈ integers v, inWordRange n = true
  | .null | .bool _ | .real _ | .str _ => by simp [writable, integers]
  | .int n => by simp [writable, integers]
  | .arr items => writableItems_iff_integers items
  | .obj fields => writableFields_iff_integers fields

theorem writableItems_iff_integers : ∀ vs : List Value,
    writableItems vs = true ↔ ∀ n ∈ itemIntegers vs, inWordRange n = true
  | [] => by simp [writableItems, itemIntegers]
  | v :: vs => by
    rw [writableItems, Bool.and_eq_true, itemIntegers, List.forall_mem_append,
      writable_iff_integers v, writableItems_iff_integers vs]

theorem writableFields_iff_integers : ∀ fields : Fields,
    writableFields fields = true ↔ ∀ n ∈ fieldIntegers fields, inWordRange n = true
  | [] => by simp [writableFields, fieldIntegers]
  | (_, v) :: fields => by
    rw [writableFields, Bool.and_eq_true, fieldIntegers, List.forall_mem_append,
      writable_iff_integers v, writableFields_iff_integers fields]

end

/-- A number that is not negative can be written if it has 64 bits. -/
theorem inWordRange_iff {n : Int} (nonneg : 0 ≤ n) :
    inWordRange n = true ↔ n ≤ 0xFFFFFFFFFFFFFFFF := by
  simp only [inWordRange, Bool.and_eq_true, decide_eq_true_eq]
  omega

theorem not_inWordRange_iff {n : Int} (nonneg : 0 ≤ n) :
    ¬inWordRange n = true ↔ 0xFFFFFFFFFFFFFFFF < n := by
  rw [inWordRange_iff nonneg, Int.not_le]

end Json

/-- An arrow that points neither to the left nor up. -/
def Primitive.Forward : Primitive → Prop
  | area _ _ _ _ _ => True
  | arrow x₁ y₁ x₂ y₂ => x₁ ≤ x₂ ∧ y₁ ≤ y₂

theorem Primitive.forward_of_not_isArrow {p : Primitive} (area : p.isArrow = false) :
    p.Forward := by
  cases p with
  | area => trivial
  | arrow => cases area

/-- A number of units that is found along one side of a block. -/
def Spanned (w h n : Int) : Prop := 0 ≤ n ∧ (n ≤ w ∨ n ≤ h)

theorem Primitive.Within.spanned {w h : Int} {p : Primitive} (within : p.Within 0 0 w h) :
    ∀ n ∈ p.measures, Spanned w h n := by
  cases p with
  | area =>
    simp only [Primitive.Within] at within
    simp only [measures, List.forall_mem_cons, List.not_mem_nil, false_imp_iff, implies_true,
      and_true, Spanned]
    omega
  | arrow =>
    simp only [Primitive.Within] at within
    simp only [measures, List.forall_mem_cons, List.not_mem_nil, false_imp_iff, implies_true,
      and_true, Spanned]
    omega

namespace Scene

/-- A scene that lies between the origin and its drawn size, which is at least one unit wide. Its
own size is not much greater than that. -/
structure Framed (s : Scene) : Prop where
  within : ∀ p ∈ s.primitives, p.Within 0 0 s.drawnWidth s.drawnHeight
  forward : ∀ p ∈ s.primitives, p.Forward
  width : 0 ≤ s.width
  height : 0 ≤ s.height
  drawnWidth : 1 ≤ s.drawnWidth
  drawnHeight : 0 ≤ s.drawnHeight
  width_le : s.width ≤ s.drawnWidth + 1
  height_eq : s.height = s.drawnHeight

/-- The scene of every valid request is such a scene. -/
theorem framed_of_render {rule : SplitRule} {r : Request} {s : Scene} (valid : r.Valid)
    (rendered : render rule r = .ok s) : s.Framed := by
  obtain ⟨name, subject⟩ := r
  obtain ⟨node, built, _⟩ := exists_of_bind_eq_ok rendered
  cases subject with
  | type t =>
    have number := (Node.tierSizes_of_ofType built).1
    obtain ⟨w, h, ps, tiled, wide⟩ := Node.tiled_of_ofType built valid.2
    rw [render_type name built number tiled.width tiled.height tiled.drawn] at rendered
    have same := Except.ok.inj rendered
    obtain ⟨drawnWidth, drawnHeight⟩ : s.drawnWidth = w ∧ s.drawnHeight = h := by
      subst same
      exact drawn_extent_of_within tiled.fills.within (List.mem_of_getLast? tiled.last)
    subst same
    refine ⟨?_, ?_, tiled.width_nonneg, tiled.height_nonneg, ?_, ?_, ?_, ?_⟩
    · rw [drawnWidth, drawnHeight]
      exact tiled.fills.within
    · exact fun p member =>
        Primitive.forward_of_not_isArrow (Node.isArrow_of_drawType tiled.drawn p member)
    · rw [drawnWidth]
      exact wide
    · rw [drawnHeight]
      exact tiled.height_nonneg
    · rw [drawnWidth]
      exact Int.le_add_one (Int.le_refl w)
    · exact drawnHeight.symm
  | operation m =>
    obtain ⟨i, input, rest⟩ := exists_of_bind_eq_ok built
    obtain ⟨o, output, _⟩ := exists_of_bind_eq_ok rest
    obtain ⟨count, inPositive, outPositive⟩ := valid.2
    obtain ⟨v, hi, ps, element, wide⟩ := Node.tiled_of_ofType input inPositive
    obtain ⟨u, ho, qs, result, wide'⟩ := Node.tiled_of_ofType output outPositive
    have nonneg : 0 ≤ m.size := Int.le_of_lt count
    obtain ⟨above, below, drawn, upper, lower⟩ :=
      render_operation name input output element result nonneg
    have same := Except.ok.inj (drawn.symm.trans rendered)
    obtain ⟨within, drawnWidth, drawnHeight⟩ := drawn_extent_of_rows element.height_nonneg
      (Int.mul_nonneg nonneg result.width_nonneg) result.height_nonneg
      (congrArg Scene.primitives same.symm) upper lower
    have gap : (0 : Int) ≤ mapGap := by decide
    have high := element.height_nonneg
    have high' := result.height_nonneg
    have row : 1 ≤ m.size * v := Int.mul_pos count wide
    have sum : max (v + m.size) (u + m.size) ≤ max (m.size * v) (m.size * u) + 1 := by
      have lack : 0 ≤ (m.size - 1) * (max v u - 1) := Int.mul_nonneg (by omega) (by omega)
      have total := (sum_against_product count (m := max v u) (by omega)).1
      rw [max_mul_left nonneg]
      omega
    subst same
    refine ⟨?_, ?_, ?_, ?_, ?_, ?_, ?_, ?_⟩
    · rw [drawnWidth, drawnHeight]
      exact within
    · refine List.forall_mem_append.mpr ⟨List.forall_mem_append.mpr ⟨?_, ?_⟩,
        List.forall_mem_singleton.mpr ?_⟩
      · exact fun p member => Primitive.forward_of_not_isArrow (upper.areas p member)
      · exact fun p member => Primitive.forward_of_not_isArrow (lower.areas p member)
      · exact ⟨Int.le_refl _, by omega⟩
    · change 0 ≤ max (v + m.size) (u + m.size)
      omega
    · change 0 ≤ hi + mapGap + ho
      omega
    · rw [drawnWidth]
      omega
    · rw [drawnHeight]
      omega
    · rw [drawnWidth]
      exact sum
    · exact drawnHeight.symm

/-- The integers of the document of a scene. -/
theorem mem_integers_toJson {s : Scene} {n : Int} :
    n ∈ Json.integers s.toJson ↔ n ∈ [1, s.width, s.height, s.drawnWidth, s.drawnHeight] ∨
      ∃ p ∈ s.primitives, n ∈ p.measures := by
  have each (p : Primitive) : Json.integers p.toJson = p.measures := by
    cases p <;> rfl
  simp [toJson, Json.integers, Json.fieldIntegers, Json.mem_itemIntegers, each, or_assoc]

/-- Such a scene has no negative integer in its document, which can be written if both of its
drawn and both of its reported sizes can. -/
theorem Framed.written {s : Scene} (framed : s.Framed) :
    (∀ n ∈ Json.integers s.toJson, 0 ≤ n) ∧
      (Json.write s.toJson = none ↔
        0xFFFFFFFFFFFFFFFF < s.width ∨ 0xFFFFFFFFFFFFFFFF < s.height ∨
          0xFFFFFFFFFFFFFFFF < s.drawnWidth ∨ 0xFFFFFFFFFFFFFFFF < s.drawnHeight) := by
  have wide := framed.drawnWidth
  have high := framed.drawnHeight
  constructor
  · intro n member
    rcases mem_integers_toJson.mp member with own | ⟨p, belongs, measure⟩
    · simp only [List.mem_cons, List.not_mem_nil, or_false] at own
      have width := framed.width
      have height := framed.height
      omega
    · exact ((framed.within p belongs).spanned n measure).1
  · -- the integers of the primitives are within the drawn size, so they ask for nothing more
    have covered : Json.inWordRange s.drawnWidth = true → Json.inWordRange s.drawnHeight = true →
        ∀ p ∈ s.primitives, ∀ n ∈ p.measures, Json.inWordRange n = true := by
      intro width height p belongs n measure
      obtain ⟨nonneg, fits⟩ := (framed.within p belongs).spanned n measure
      rw [Json.inWordRange_iff (by omega)] at width height ⊢
      omega
    have wide' : 0 ≤ s.drawnWidth := by omega
    rw [Json.write_eq_none_iff, ← Bool.not_eq_true, writable_toJson,
      ← Json.not_inWordRange_iff framed.width, ← Json.not_inWordRange_iff framed.height,
      ← Json.not_inWordRange_iff wide', ← Json.not_inWordRange_iff high]
    constructor
    · intro refused
      by_contra fits
      simp only [not_or, not_not] at fits
      obtain ⟨width, height, drawnWidth, drawnHeight⟩ := fits
      exact refused ⟨⟨width, height, covered drawnWidth drawnHeight⟩, drawnWidth, drawnHeight⟩
    · rintro beyond ⟨⟨width, height, _⟩, drawnWidth, drawnHeight⟩
      simp only [width, height, drawnWidth, drawnHeight, not_true, or_false] at beyond

end Scene

namespace Element

/-- The lengths of an element in pixels. -/
def pixels (e : Element) : List Int :=
  [e.x, e.y, e.width, e.height] ++
    match e.figure with
    | .arrow dx dy => [dx, dy]
    | _ => []

theorem integers_originJson (e : Element) :
    Json.integers e.originJson = (e.index : Int) :: e.primitive.measures := by
  cases primitive : e.primitive <;> simp [originJson, primitive, Primitive.fields, Json.integers,
    Json.fieldIntegers, Primitive.measures]

/-- The integers of an element in a document: fixed ones, its random numbers, its place, and those
of its primitive, as they were and in pixels. -/
theorem mem_integers_toJson {e : Element} {n : Int} (member : n ∈ Json.integers e.toJson) :
    n ∈ [0, 1, 2, 100, e.seeds.1, e.seeds.2, (e.index : Int)] ∨ n ∈ e.primitive.measures ∨
      n ∈ e.pixels := by
  cases figure : e.figure <;>
    simp only [toJson, commonFields, figureFields, figure, List.cons_append, List.nil_append,
      Json.integers, Json.fieldIntegers, Json.itemIntegers, integers_originJson, pixels,
      List.append_nil, List.mem_append, List.mem_cons, List.not_mem_nil, or_false] at member ⊢ <;>
    grind

/-- What an element shows of a primitive within a block is measured in whole units of the block. -/
theorem exists_units_of_pixel {unit : Int} {seeds : Seeds} {scene : String} {index : Nat}
    {p : Primitive} {e : Element} {w h n : Int} (positive : 1 ≤ unit)
    (made : ofPrimitive unit seeds scene index p = .ok e) (within : p.Within 0 0 w h)
    (forward : p.Forward) (pixel : n ∈ e.pixels) : ∃ k, n = k * unit ∧ Spanned w h k := by
  cases p with
  | area kind x y wide high =>
    have measured : ∀ k ∈ [x, y, wide, high], Spanned w h k := within.spanned
    have scaled : e.pixels = [x, y, wide, high].map (· * unit) := by
      cases kind with
      | rectangle => cases made; rfl
      | box => cases made; rfl
      | plain => cases made
    rw [scaled] at pixel
    obtain ⟨k, member, rfl⟩ := List.mem_map.mp pixel
    exact ⟨k, rfl, measured k member⟩
  | arrow x₁ y₁ x₂ y₂ =>
    obtain ⟨rightward, downward⟩ := forward
    have nonneg : 0 ≤ unit := by omega
    have across : 0 ≤ (x₂ - x₁) * unit := Int.mul_nonneg (Int.sub_nonneg_of_le rightward) nonneg
    have down : 0 ≤ (y₂ - y₁) * unit := Int.mul_nonneg (Int.sub_nonneg_of_le downward) nonneg
    have measured : ∀ k ∈ [x₁, y₁, x₂ - x₁, y₂ - y₁], Spanned w h k := by
      simp only [Primitive.Within] at within
      simp only [List.forall_mem_cons, List.not_mem_nil, false_imp_iff, implies_true, and_true,
        Spanned]
      omega
    cases made
    simp only [pixels, Int.natAbs_of_nonneg across, Int.natAbs_of_nonneg down, List.mem_append,
      List.mem_cons, List.not_mem_nil, or_false] at pixel
    rcases pixel with (rfl | rfl | rfl | rfl) | rfl | rfl <;>
      exact ⟨_, rfl, measured _ (by simp)⟩

end Element

/-- The random numbers that sketches are made with: positive ones of 31 bits. -/
def Seeds.InRange (seeds : Seeds) : Prop :=
  ∀ i, (1 ≤ (seeds i).1 ∧ (seeds i).1 ≤ 0x7FFFFFFF) ∧
    1 ≤ (seeds i).2 ∧ (seeds i).2 ≤ 0x7FFFFFFF

theorem Spanned.scaled {w h k u : Int} (spanned : Spanned w h k) (positive : 1 ≤ u) :
    Spanned (u * w) (u * h) (k * u) := by
  obtain ⟨nonneg, fits⟩ := spanned
  have nonneg' : 0 ≤ u := by omega
  rw [Int.mul_comm k u]
  exact ⟨Int.mul_nonneg nonneg' nonneg, fits.imp (Int.mul_le_mul_of_nonneg_left · nonneg')
    (Int.mul_le_mul_of_nonneg_left · nonneg')⟩

theorem Spanned.widened {w h k u : Int} (spanned : Spanned w h k) (positive : 1 ≤ u) :
    Spanned (u * w) (u * h) k := by
  have grown : k * 1 ≤ k * u := Int.mul_le_mul_of_nonneg_left positive spanned.1
  rw [Int.mul_one] at grown
  exact ⟨spanned.1, (spanned.scaled positive).2.imp (Int.le_trans grown) (Int.le_trans grown)⟩

namespace Scene

/-- The integers of a sketch of such a scene: small ones, places, and lengths within the scaled
drawn size. -/
theorem Framed.sketch_integers {u : Int} {seeds : Seeds} {s : Scene} {sketch : Sketch} {n : Int}
    (framed : s.Framed) (positive : 1 ≤ u) (range : seeds.InRange)
    (converted : Sketch.ofScene u seeds s = .ok sketch) (member : n ∈ Json.integers sketch.toJson) :
    (0 ≤ n ∧ n ≤ 0x7FFFFFFF) ∨ (0 ≤ n ∧ n < s.primitives.length) ∨
      Spanned (u * s.drawnWidth) (u * s.drawnHeight) n := by
  have made := Sketch.made_of_ofScene converted
  have same := Except.ok.inj (converted.symm.trans (Sketch.ofScene_of_made positive made))
  have unit : sketch.unitSize = u := congrArg Sketch.unitSize same
  have own : n = 2 ∨ (∃ e ∈ sketch.elements, n ∈ Json.integers e.toJson) ∨ n = sketch.unitSize := by
    simpa [Sketch.toJson, sketchDocument, Sketch.canvas, Json.integers, Json.fieldIntegers,
      Json.mem_itemIntegers] using member
  rcases own with rfl | ⟨e, belongs, inside⟩ | rfl
  · exact .inl (by decide)
  · obtain ⟨i, found⟩ := List.getElem?_of_mem belongs
    obtain ⟨p, source, itself⟩ := Element.exists_of_getElem?_ofPrimitives made found
    obtain ⟨_, place, primitive, random⟩ := Element.parts_of_ofPrimitive itself
    have placed : i < s.primitives.length := (List.getElem?_eq_some_iff.mp source).1
    have within := framed.within p (List.mem_of_getElem? source)
    have forward := framed.forward p (List.mem_of_getElem? source)
    rcases Element.mem_integers_toJson inside with fixed | measure | pixel
    · rw [place, random] at fixed
      have seed := range i
      simp only [List.mem_cons, List.not_mem_nil, or_false] at fixed
      omega
    · rw [primitive] at measure
      exact .inr (.inr ((within.spanned n measure).widened positive))
    · obtain ⟨k, rfl, spanned⟩ :=
        Element.exists_units_of_pixel positive itself within forward pixel
      exact .inr (.inr (spanned.scaled positive))
  · -- the canvas has the unit itself, which is within the scaled width of one or more units
    have one : Spanned s.drawnWidth s.drawnHeight 1 := ⟨by decide, .inl framed.drawnWidth⟩
    have scaled := one.scaled positive
    rw [Int.one_mul] at scaled
    rw [unit]
    exact .inr (.inr scaled)

/-- The scene of a row of numbers. -/
theorem render_row (name : String) {n : Int} (size : 0 ≤ n) :
    ∃ s, render pairwise ⟨name, .type (.array .float n)⟩ = .ok s ∧ s.width = n ∧ s.height = 1 ∧
      s.drawnWidth = n ∧ s.drawnHeight = 1 ∧ s.primitives.length = n.toNat + 1 := by
  have built : Node.ofType pairwise (.array .float n) = .ok (.linear .float n) := rfl
  have tiled := Node.tiled_float.linear size
  rw [Int.mul_one] at tiled
  refine ⟨_, render_type name built rfl tiled.width tiled.height tiled.drawn, rfl, rfl, ?_, ?_, ?_⟩
  · exact (drawn_extent_of_within tiled.fills.within (List.mem_of_getLast? tiled.last)).1
  · exact (drawn_extent_of_within tiled.fills.within (List.mem_of_getLast? tiled.last)).2
  · simp [Node.length_copiesAcross]

/-- The scene of a map over pairs. -/
theorem render_pairs (name : String) {n : Int} (count : 1 ≤ n) :
    ∃ s, render pairwise ⟨name, .operation ⟨.array .float 2, .float, n⟩⟩ = .ok s ∧
      s.width = n + 2 ∧ s.drawnWidth = n * 2 := by
  let m : MapOperation := ⟨.array .float 2, .float, n⟩
  have input : Node.ofType pairwise m.input = .ok (.linear .float 2) := rfl
  have output : Node.ofType pairwise m.output = .ok .float := rfl
  have pair := Node.tiled_float.linear (n := 2) (by decide)
  have nonneg : 0 ≤ n := by omega
  obtain ⟨above, below, rendered, upper, lower⟩ :=
    render_operation name input output pair Node.tiled_float nonneg
  refine ⟨_, rendered, ?_, ?_⟩
  · change max (2 * 1 + n) (1 + n) = n + 2
    omega
  · refine (drawn_extent_of_rows (by decide) ?_ (by decide) rfl upper lower).2.1.trans ?_
    · change 0 ≤ n * 1
      omega
    · change max (n * (2 * 1)) (n * 1) = n * 2
      omega

end Scene

/-- The document of a rendered scene can be written unless one of its reported and drawn sizes has
more than 64 bits: no integer of a primitive is greater than both drawn sizes, and none in the
document is negative. A sketch of the scene has no negative integer either, and it can be written
if the drawn size in pixels has 64 bits and the places of its elements do. -/
theorem rendered_scene_in_word_range {rule : SplitRule} {r : Request} {s : Scene}
    (valid : r.Valid) (rendered : Scene.render rule r = .ok s) :
    (Json.write s.toJson = none ↔
        0xFFFFFFFFFFFFFFFF < s.width ∨ 0xFFFFFFFFFFFFFFFF < s.height ∨
          0xFFFFFFFFFFFFFFFF < s.drawnWidth ∨ 0xFFFFFFFFFFFFFFFF < s.drawnHeight) ∧
      (∀ p ∈ s.primitives, ∀ n ∈ p.measures, n ≤ s.drawnWidth ∨ n ≤ s.drawnHeight) ∧
      (∀ n ∈ Json.integers s.toJson, 0 ≤ n) ∧
      ∀ u seeds, 1 ≤ u → Seeds.InRange seeds → ∃ sketch,
        Sketch.ofScene u seeds s = .ok sketch ∧ (∀ n ∈ Json.integers sketch.toJson, 0 ≤ n) ∧
        (u * s.drawnWidth ≤ 0xFFFFFFFFFFFFFFFF → u * s.drawnHeight ≤ 0xFFFFFFFFFFFFFFFF →
          s.primitives.length ≤ 0x10000000000000000 →
          ∃ text, Json.write sketch.toJson = some text) := by
  have framed := Scene.framed_of_render valid rendered
  obtain ⟨nonneg, written⟩ := framed.written
  refine ⟨written, ?_, nonneg, ?_⟩
  · exact fun p member n measure => ((framed.within p member).spanned n measure).2
  · intro u seeds positive range
    obtain ⟨sketch, converted⟩ := Sketch.ofScene_of_render seeds positive rendered
    refine ⟨sketch, converted, ?_, ?_⟩
    · intro n member
      have := framed.sketch_integers positive range converted member
      unfold Spanned at this
      omega
    · intro wide high count
      have fits : Json.writable sketch.toJson = true := by
        refine (Json.writable_iff_integers _).mpr ?_
        intro n member
        have := framed.sketch_integers positive range converted member
        unfold Spanned at this
        rw [Json.inWordRange_iff (by omega)]
        omega
      exact ⟨_, if_pos fits⟩

/-- The longest row that can be written, with its sketch of one pixel to a unit, and the row of one
number more; and a map that reports less than it is drawn to, and cannot be written. -/
theorem rendered_scene_in_word_range_border :
    let row (n : Int) : Request := ⟨"row", .type (.array .float n)⟩
    let pairs : Request := ⟨"pairs", .operation ⟨.array .float 2, .float, 0x8000000000000000⟩⟩
    (∃ s text, Scene.render pairwise (row 0xFFFFFFFFFFFFFFFF) = .ok s ∧
      Json.write s.toJson = some text ∧ ∃ sketch text',
        Sketch.ofScene 1 (fun _ => (5, 7)) s = .ok sketch ∧
        Json.write sketch.toJson = some text') ∧
      (∃ s, Scene.render pairwise (row 0x10000000000000000) = .ok s ∧
        Json.write s.toJson = none) ∧
      ∃ s, Scene.render pairwise pairs = .ok s ∧ s.width = 0x8000000000000002 ∧
        Json.write s.toJson = none := by
  intro row pairs
  have seeds : Seeds.InRange fun _ => (5, 7) := by simp [Seeds.InRange]
  have valid {n : Int} (positive : 1 ≤ n) : (row n).Valid := ⟨by simp [row], positive, trivial⟩
  refine ⟨?longest, ?longer, ?map⟩
  case longest =>
    obtain ⟨s, rendered, width, height, drawnWidth, drawnHeight, count⟩ :=
      Scene.render_row "row" (n := 0xFFFFFFFFFFFFFFFF) (by decide)
    obtain ⟨refused, _, _, sketches⟩ :=
      rendered_scene_in_word_range (valid (by decide)) rendered
    obtain ⟨sketch, converted, _, written⟩ := sketches 1 _ (by decide) seeds
    obtain ⟨text', sketched⟩ := written (by omega) (by omega) (by omega)
    cases written : Json.write s.toJson with
    | none =>
      have beyond := refused.mp written
      omega
    | some text => exact ⟨s, text, rendered, written, sketch, text', converted, sketched⟩
  case longer =>
    obtain ⟨s, rendered, width, _⟩ := Scene.render_row "row" (n := 0x10000000000000000) (by decide)
    refine ⟨s, rendered, ?_⟩
    refine (rendered_scene_in_word_range (valid (by decide)) rendered).1.mpr (.inl ?_)
    omega
  case map =>
    have valid' : pairs.Valid := ⟨by decide, by decide, ⟨by decide, trivial⟩, trivial⟩
    obtain ⟨s, rendered, width, drawnWidth⟩ :=
      Scene.render_pairs "pairs" (n := 0x8000000000000000) (by decide)
    refine ⟨s, rendered, width, ?_⟩
    refine (rendered_scene_in_word_range valid' rendered).1.mpr (.inr (.inr (.inl ?_)))
    omega

end ArrayScene

import ArrayScene.Proofs.BuiltNodes
import ArrayScene.Proofs.Console.Legibility
import ArrayScene.Proofs.WordRange

/-!
# Numbers of built nodes

No number in the labels of a built node is greater than both sides of the whole node. Where the
integers of its scene or of a sketch of that have 64 bits, these sides have hardly more, so the node
is legible.
-/
namespace ArrayScene

/-- A positive number of units that is found along one side of a block. -/
def Measured (w h k : Int) : Prop := 1 ≤ k ∧ (k ≤ w ∨ k ≤ h)

theorem Measured.mono {w h w' h' k : Int} (measured : Measured w h k) (wide : w ≤ w')
    (high : h ≤ h') : Measured w' h' k :=
  ⟨measured.1, measured.2.imp (Int.le_trans · wide) (Int.le_trans · high)⟩

namespace Node

variable {node part : Node} {w h k : Int}

theorem measured_of_inLabel (width : node.width = .ok w) (height : node.height = .ok h)
    (wide : 1 ≤ w) (high : 1 ≤ h) (sizes : ∀ n ∈ node.ownSizes, Measured w h n)
    (inside : node.InLabel k) : Measured w h k := by
  cases inside with
  | size own => exact sizes k own
  | width measured =>
    cases width.symm.trans measured
    exact ⟨wide, .inl (Int.le_refl w)⟩
  | height measured =>
    cases height.symm.trans measured
    exact ⟨high, .inr (Int.le_refl h)⟩

/-- A product of positive integers is no less than each of them. -/
theorem le_mul_of_one_le {n m : Int} (hn : 1 ≤ n) (hm : 1 ≤ m) : n ≤ n * m ∧ m ≤ n * m := by
  have left : n * 1 ≤ n * m := Int.mul_le_mul_of_nonneg_left hm (by omega)
  have right : 1 * m ≤ n * m := Int.mul_le_mul_of_nonneg_right hn (by omega)
  omega

/-- The numbers in an array without empty sides are found along the sides of the whole. -/
theorem IsArray.measured (array : node.IsArray 1) (width : node.width = .ok w)
    (height : node.height = .ok h) (within : part.Within node) (inside : part.InLabel k) :
    Measured w h k := by
  induction array generalizing w h part k with
  | float =>
    cases width
    cases height
    cases within
    exact measured_of_inLabel rfl rfl (by decide) (by decide) (List.forall_mem_nil _) inside
  | @linear e n element size ih =>
    obtain ⟨v, inner, same⟩ := exists_of_bind_eq_ok width
    cases same
    have wide : 1 ≤ v := (ih inner height .here (.width inner)).1
    have high : 1 ≤ h := (ih inner height .here (.height height)).1
    have grown := le_mul_of_one_le wide size
    cases within with
    | linear below => exact (ih inner height below inside).mono grown.1 (Int.le_refl h)
    | here =>
      refine measured_of_inLabel width height (Int.le_trans wide grown.1) high ?_ inside
      exact List.forall_mem_singleton.mpr ⟨size, .inl grown.2⟩
  | @grid e n m element columns rows ih =>
    obtain ⟨v, inner, same⟩ := exists_of_bind_eq_ok width
    cases same
    obtain ⟨u, innerHeight, same⟩ := exists_of_bind_eq_ok height
    cases same
    have wide : 1 ≤ v := (ih inner innerHeight .here (.width inner)).1
    have high : 1 ≤ u := (ih inner innerHeight .here (.height innerHeight)).1
    have wider := le_mul_of_one_le wide columns
    have higher := le_mul_of_one_le high rows
    cases within with
    | grid below => exact (ih inner innerHeight below inside).mono wider.1 higher.1
    | here =>
      refine measured_of_inLabel width height (Int.le_trans wide wider.1)
        (Int.le_trans high higher.1) ?_ inside
      exact List.forall_mem_cons.mpr ⟨⟨columns, .inl wider.2⟩,
        List.forall_mem_singleton.mpr ⟨rows, .inr higher.2⟩⟩

/-- So are the numbers in every node of a valid request. -/
theorem IsBuilt.measured (built : node.IsBuilt) (width : node.width = .ok w)
    (height : node.height = .ok h) (within : part.Within node) (inside : part.InLabel k) :
    Measured w h k := by
  cases built with
  | value array => exact array.measured width height within inside
  | @map i o n input output count =>
    obtain ⟨v, inner, rest⟩ := exists_of_bind_eq_ok width
    obtain ⟨u, inner', same⟩ := exists_of_bind_eq_ok rest
    cases same
    obtain ⟨hi, innerHeight, rest⟩ := exists_of_bind_eq_ok height
    obtain ⟨ho, innerHeight', same⟩ := exists_of_bind_eq_ok rest
    cases same
    have gap : (0 : Int) ≤ mapGap := by decide
    have wide := (input.measured inner innerHeight .here (.width inner)).1
    have high := (input.measured inner innerHeight .here (.height innerHeight)).1
    have high' := (output.measured inner' innerHeight' .here (.height innerHeight')).1
    cases within with
    | here =>
      refine measured_of_inLabel width height (by omega) (by omega) ?_ inside
      exact List.forall_mem_singleton.mpr ⟨count, .inl (by omega)⟩
    | input below =>
      exact (input.measured inner innerHeight below inside).mono (by omega) (by omega)
    | output below =>
      exact (output.measured inner' innerHeight' below inside).mono (by omega) (by omega)

/-- A number of 65 bits has no more than 20 digits. -/
theorem digitCount_le_of_lt {n : Int} (nonneg : 0 ≤ n) (small : n ≤ 0x1FFFFFFFFFFFFFFFF) :
    Decimal.digitCount n ≤ Decimal.digitLimit := by
  have digits : Decimal.digitCount n ≤ 20 :=
    (Nat.length_toDigits_le_iff (by decide) (by decide)).mpr (by omega)
  exact Nat.le_trans digits (by decide)

/-- A node of a valid request is legible if its sides are short. -/
theorem IsBuilt.legible (built : node.IsBuilt) (width : node.width = .ok w)
    (height : node.height = .ok h) (wide : w ≤ 0x1FFFFFFFFFFFFFFFF)
    (high : h ≤ 0x1FFFFFFFFFFFFFFFF) : node.Legible := by
  intro part within k inside
  obtain ⟨positive, along⟩ := built.measured width height within inside
  exact digitCount_le_of_lt (by omega) (by omega)

end Node

namespace Scene

/-- If the integers of its primitives can be written, the space that a scene covers has hardly more
bits. -/
theorem drawn_le_of_measures {s : Scene}
    (fits : ∀ p ∈ s.primitives, ∀ n ∈ p.measures, Json.inWordRange n = true) :
    s.drawnWidth ≤ 0x1FFFFFFFFFFFFFFFE ∧ s.drawnHeight ≤ 0x1FFFFFFFFFFFFFFFE := by
  have edges : ∀ p ∈ s.primitives,
      p.right ≤ 0x1FFFFFFFFFFFFFFFE ∧ p.bottom ≤ 0x1FFFFFFFFFFFFFFFE := by
    intro p member
    have range := fits p member
    cases p <;>
      · simp only [Primitive.measures, List.forall_mem_cons, Json.inWordRange, Bool.and_eq_true,
          decide_eq_true_eq] at range
        simp only [Primitive.right, Primitive.bottom]
        omega
  have farthest_le {edges : List Int} (each : ∀ e ∈ edges, e ≤ 0x1FFFFFFFFFFFFFFFE) :
      farthest edges ≤ 0x1FFFFFFFFFFFFFFFE := by
    rw [farthest]
    cases most : edges.max? with
    | none => decide
    | some e => exact each e (List.max?_mem most)
  constructor
  · exact farthest_le (List.forall_mem_map.mpr fun p member => (edges p member).1)
  · exact farthest_le (List.forall_mem_map.mpr fun p member => (edges p member).2)

end Scene

/-! ### From a document -/

theorem Element.mem_integers_of_measure {e : Element} {n : Int}
    (measure : n ∈ e.primitive.measures) : n ∈ Json.integers e.toJson := by
  cases figure : e.figure <;>
    simp [toJson, commonFields, figureFields, figure, Json.integers, Json.fieldIntegers,
      Json.itemIntegers, integers_originJson, measure]

/-- A sketch has the integers of the primitives in it as well. -/
theorem Sketch.measures_of_writable {unit : Int} {seeds : Seeds} {s : Scene} {sketch : Sketch}
    (converted : Sketch.ofScene unit seeds s = .ok sketch)
    (fits : Json.writable sketch.toJson = true) :
    ∀ p ∈ s.primitives, ∀ n ∈ p.measures, Json.inWordRange n = true := by
  intro p member n measure
  have made := Element.made_of_ofPrimitives (Sketch.made_of_ofScene converted)
  have same : sketch.elements.map Element.primitive = s.primitives := by
    rw [← List.zipIdx_map_fst 0 s.primitives]
    refine map_eq_map_of_forall₂ ?_ made
    intro q e each
    exact (Element.parts_of_ofPrimitive each).2.2.1
  rw [← same] at member
  obtain ⟨e, belongs, rfl⟩ := List.mem_map.mp member
  refine (Json.writable_iff_integers _).mp fits n ?_
  have inside := Element.mem_integers_of_measure measure
  simp only [toJson, sketchDocument, Json.integers, Json.fieldIntegers, List.mem_append,
    Json.mem_itemIntegers, List.mem_map]
  exact .inr (.inr (.inr (.inl ⟨_, ⟨e, belongs, rfl⟩, inside⟩)))

/-- If the integers of the primitives in its scene can be written, the node of a valid request is
legible. -/
theorem Node.legible_of_measures {rule : SplitRule} {r : Request} {s : Scene} {node : Node}
    (valid : r.Valid) (built : Node.ofSubject rule r.subject = .ok node)
    (rendered : Scene.render rule r = .ok s)
    (fits : ∀ p ∈ s.primitives, ∀ n ∈ p.measures, Json.inWordRange n = true) : node.Legible := by
  have framed := Scene.framed_of_render valid rendered
  obtain ⟨wide, high⟩ := Scene.drawn_le_of_measures fits
  obtain ⟨node', built', rest⟩ := exists_of_bind_eq_ok rendered
  cases built.symm.trans built'
  obtain ⟨_, _, rest⟩ := exists_of_bind_eq_ok rest
  obtain ⟨w, width, rest⟩ := exists_of_bind_eq_ok rest
  obtain ⟨h, height, same⟩ := exists_of_bind_eq_ok rest
  have reported := framed.width_le
  have covered := framed.height_eq
  have frame : w = s.width ∧ h = s.height := by
    cases same
    exact ⟨rfl, rfl⟩
  exact (isBuilt_of_ofSubject valid.2 built).legible width height (by omega) (by omega)

end ArrayScene

import ArrayScene.Proofs.Dimensions
import ArrayScene.Proofs.MapLayout
import Mathlib.Algebra.Group.Int.Units

/-!
# Reported and drawn size

A scene reports the size of its root node, and its primitives cover a size of their own. For a type
the two agree. For an operation they agree in height; the reported width adds the number of elements
to the width of the wider element, while the rows that are drawn multiply the two.
-/
namespace ArrayScene

/-- No coordinate and no size of a primitive is below zero. -/
def Primitive.NonNegative : Primitive → Prop
  | area _ x y w h => (0 ≤ x ∧ 0 ≤ y) ∧ 0 ≤ w ∧ 0 ≤ h
  | arrow x₁ y₁ x₂ y₂ => (0 ≤ x₁ ∧ 0 ≤ y₁) ∧ 0 ≤ x₂ ∧ 0 ≤ y₂

theorem Primitive.Within.nonNegative {w h : Int} {p : Primitive} (within : p.Within 0 0 w h) :
    p.NonNegative := by
  cases p <;> simp only [Primitive.Within, Primitive.NonNegative] at within ⊢ <;> omega

namespace Node

theorem IsArray.mono {least least' : Int} {node : Node} (array : node.IsArray least)
    (le : least' ≤ least) : node.IsArray least' := by
  obtain ⟨number, sizes⟩ := isArray_iff.mp array
  exact isArray_iff.mpr ⟨number, fun n member => Int.le_trans le (sizes n member)⟩

/-- A positive type becomes an array without empty sides, whatever the rule. -/
theorem isArray_of_ofType {rule : SplitRule} {t : SourceType} {node : Node}
    (built : ofType rule t = .ok node) (positive : t.Positive) : node.IsArray 1 := by
  obtain ⟨number, sizes⟩ := tierSizes_of_ofType built
  refine isArray_iff.mpr ⟨number, ?_⟩
  rw [sizes]
  exact positive.one_le

/-- An array without empty sides is at least one unit wide. -/
theorem one_le_width {node : Node} (array : node.IsArray 1) {w : Int} (width : node.width = .ok w) :
    1 ≤ w := by
  induction array generalizing w with
  | float =>
    cases width
    exact Int.le_refl 1
  | linear element size ih | grid element size _ ih =>
    obtain ⟨v, inner, outer⟩ := exists_of_bind_eq_ok width
    cases outer
    exact Int.mul_pos (ih inner) size

/-- A node built from a positive type is drawn as a tiling, and is at least one unit wide. -/
theorem tiled_of_ofType {rule : SplitRule} {t : SourceType} {node : Node}
    (built : ofType rule t = .ok node) (positive : t.Positive) :
    ∃ w h ps, Tiled node w h ps ∧ 1 ≤ w := by
  have array := isArray_of_ofType built positive
  obtain ⟨w, h, ps, tiled⟩ := tiled_of_isArray (array.mono (by decide))
  exact ⟨w, h, ps, tiled, one_le_width array tiled.width⟩

end Node

/-- The scene of an operation whose two elements are drawn: the two rows at their places, and the
arrow between them. -/
theorem Scene.render_operation {rule : SplitRule} {m : MapOperation} {i o : Node}
    {v hi u ho : Int} {ps qs : List Primitive} (name : String)
    (input : Node.ofType rule m.input = .ok i) (output : Node.ofType rule m.output = .ok o)
    (element : Node.Tiled i v hi ps) (result : Node.Tiled o u ho qs) (count : 0 ≤ m.size) :
    ∃ above below, Scene.render rule ⟨name, .operation m⟩ =
        .ok ⟨name, above ++ below ++ [.arrow (max (m.size * v) (m.size * u) / 2) hi
          (max (m.size * v) (m.size * u) / 2) (hi + mapGap)], max (v + m.size) (u + m.size),
          hi + mapGap + ho⟩ ∧
      Placed ((max (m.size * v) (m.size * u) - m.size * v) / 2) 0 (m.size * v) hi above ∧
      Placed ((max (m.size * v) (m.size * u) - m.size * u) / 2) (hi + mapGap) (m.size * u) ho
        below := by
  have upper := element.linear count
  have lower := result.linear count
  refine ⟨_, _, ?_, placed_of_tiled _ 0 upper, placed_of_tiled _ (hi + mapGap) lower⟩
  simp only [Scene.render, Node.ofSubject, Node.ofOperation, input, output, Node.draw,
    Node.drawOperation_map upper lower, Node.width, Node.height, element.width, result.width,
    element.height, result.height, bind, Except.bind]

/-- What two placed rows and the arrow between them cover: the width of the wider row, and the
height of both with the gap. -/
theorem drawn_extent_of_rows {scene : Scene} {wi hi wo ho : Int} {above below : List Primitive}
    (high : 0 ≤ hi) (wide' : 0 ≤ wo) (high' : 0 ≤ ho)
    (parts : scene.primitives = above ++ below ++
      [.arrow (max wi wo / 2) hi (max wi wo / 2) (hi + mapGap)])
    (upper : Placed ((max wi wo - wi) / 2) 0 wi hi above)
    (lower : Placed ((max wi wo - wo) / 2) (hi + mapGap) wo ho below) :
    (∀ p ∈ scene.primitives, p.Within 0 0 (max wi wo) (hi + mapGap + ho)) ∧
      scene.drawnWidth = max wi wo ∧ scene.drawnHeight = hi + mapGap + ho := by
  have gap : (0 : Int) ≤ mapGap := by decide
  have inUpper : ∀ p ∈ above, p.Within 0 0 (max wi wo) (hi + mapGap + ho) := fun p member =>
    (upper.fills.within p member).mono (by omega) (by omega) (by omega) (by omega)
  have inLower : ∀ p ∈ below, p.Within 0 0 (max wi wo) (hi + mapGap + ho) := fun p member =>
    (lower.fills.within p member).mono (by omega) (by omega) (by omega) (by omega)
  have within : ∀ p ∈ scene.primitives, p.Within 0 0 (max wi wo) (hi + mapGap + ho) := by
    rw [parts]
    refine List.forall_mem_append.mpr ⟨List.forall_mem_append.mpr ⟨inUpper, inLower⟩,
      List.forall_mem_singleton.mpr ?_⟩
    simp only [Primitive.Within]
    omega
  have upperBox := List.mem_of_getLast? upper.outer
  have lowerBox := List.mem_of_getLast? lower.outer
  refine ⟨within, ?_⟩
  -- The wider row reaches the right edge, and the lower one always reaches the bottom.
  rcases Int.le_total wi wo with narrower | wider
  · apply drawn_extent_of_reached within (p := .area .box _ _ _ _) (q := .area .box _ _ _ _)
    · rw [parts]
      exact List.mem_append_left _ (List.mem_append_right _ lowerBox)
    · simp only [Primitive.right]
      omega
    · rw [parts]
      exact List.mem_append_left _ (List.mem_append_right _ lowerBox)
    · rfl
  · apply drawn_extent_of_reached within (p := .area .box _ _ _ _) (q := .area .box _ _ _ _)
    · rw [parts]
      exact List.mem_append_left _ (List.mem_append_left _ upperBox)
    · simp only [Primitive.right]
      omega
    · rw [parts]
      exact List.mem_append_left _ (List.mem_append_right _ lowerBox)
    · rfl

theorem max_mul_left {n : Int} (nonneg : 0 ≤ n) (v u : Int) :
    max (n * v) (n * u) = n * max v u := by
  rcases Int.le_total v u with below | above
  · rw [Int.max_eq_right below, Int.max_eq_right (Int.mul_le_mul_of_nonneg_left below nonneg)]
  · rw [Int.max_eq_left above, Int.max_eq_left (Int.mul_le_mul_of_nonneg_left above nonneg)]

/-- A sum of two positive integers against their product: they agree only at two and two, and the
sum is greater only if one of the two is one. -/
theorem sum_against_product {n m : Int} (hn : 1 ≤ n) (hm : 1 ≤ m) :
    m + n - n * m = 1 - (n - 1) * (m - 1) ∧
      (m + n = n * m ↔ n = 2 ∧ m = 2) ∧
      (m + n = n * m + 1 ↔ n = 1 ∨ m = 1) ∧
      (m + n < n * m ↔ ¬(n = 2 ∧ m = 2) ∧ ¬(n = 1 ∨ m = 1)) := by
  have lack : m + n - n * m = 1 - (n - 1) * (m - 1) := by ring
  have nonneg : 0 ≤ (n - 1) * (m - 1) := Int.mul_nonneg (by omega) (by omega)
  have none_iff : (n - 1) * (m - 1) = 0 ↔ n = 1 ∨ m = 1 := by
    rw [Int.mul_eq_zero]
    omega
  have one_iff : (n - 1) * (m - 1) = 1 ↔ n = 2 ∧ m = 2 := by
    rw [Int.mul_eq_one_iff_eq_one_or_neg_one]
    omega
  rw [← none_iff, ← one_iff]
  refine ⟨lack, ?_, ?_, ?_⟩ <;> omega

/-- The reported size of a scene against the drawn one. No primitive reaches below zero. The scene
of a type is drawn to the size it reports. The scene of an operation is drawn to the height it
reports, and to the number of elements times the greater width of its two elements; the reported
width is that of a sum in place of the product, so it is right only for two elements of width two,
one too large if the number or the width is one, and too small otherwise. -/
theorem reported_size_against_drawn {rule : SplitRule} {r : Request} {scene : Scene}
    (valid : r.Valid) (rendered : Scene.render rule r = .ok scene) :
    (∀ p ∈ scene.primitives, p.NonNegative) ∧
      (∀ t, r.subject = .type t →
        scene.drawnWidth = scene.width ∧ scene.drawnHeight = scene.height) ∧
      ∀ m, r.subject = .operation m → ∃ i o v u,
        Node.ofType rule m.input = .ok i ∧ Node.ofType rule m.output = .ok o ∧
        i.width = .ok v ∧ o.width = .ok u ∧
        let n := m.size
        let widest := max v u
        scene.drawnHeight = scene.height ∧ scene.drawnWidth = n * widest ∧
        scene.width - scene.drawnWidth = 1 - (n - 1) * (widest - 1) ∧
        (scene.width = scene.drawnWidth ↔ n = 2 ∧ widest = 2) ∧
        (scene.width = scene.drawnWidth + 1 ↔ n = 1 ∨ widest = 1) ∧
        (scene.width < scene.drawnWidth ↔ ¬(n = 2 ∧ widest = 2) ∧ ¬(n = 1 ∨ widest = 1)) := by
  obtain ⟨name, subject⟩ := r
  cases subject with
  | type t =>
    obtain ⟨node, built, _⟩ := exists_of_bind_eq_ok rendered
    have number := (Node.tierSizes_of_ofType built).1
    obtain ⟨w, h, ps, tiled, _⟩ := Node.tiled_of_ofType built valid.2
    rw [Scene.render_type name built number tiled.width tiled.height tiled.drawn] at rendered
    cases rendered
    refine ⟨fun p member => (tiled.fills.within p member).nonNegative, ?_, nofun⟩
    intro _ _
    exact drawn_extent_of_within tiled.fills.within (List.mem_of_getLast? tiled.last)
  | operation m =>
    obtain ⟨node, built, _⟩ := exists_of_bind_eq_ok rendered
    obtain ⟨i, input, rest⟩ := exists_of_bind_eq_ok built
    obtain ⟨o, output, _⟩ := exists_of_bind_eq_ok rest
    obtain ⟨count, inPositive, outPositive⟩ := valid.2
    obtain ⟨v, hi, ps, element, wide⟩ := Node.tiled_of_ofType input inPositive
    obtain ⟨u, ho, qs, result, wide'⟩ := Node.tiled_of_ofType output outPositive
    have nonneg : 0 ≤ m.size := Int.le_of_lt count
    obtain ⟨above, below, drawn, upper, lower⟩ :=
      Scene.render_operation name input output element result nonneg
    have same := Except.ok.inj (drawn.symm.trans rendered)
    obtain ⟨within, drawnWidth, drawnHeight⟩ := drawn_extent_of_rows
      element.height_nonneg
      (Int.mul_nonneg nonneg result.width_nonneg) result.height_nonneg
      (congrArg Scene.primitives same.symm) upper lower
    subst same
    refine ⟨fun p member => (within p member).nonNegative, nofun, ?_⟩
    intro _ this
    cases this
    refine ⟨i, o, v, u, input, output, element.width, result.width, drawnHeight, ?_⟩
    rw [drawnWidth, max_mul_left nonneg]
    have sums : max (v + m.size) (u + m.size) = max v u + m.size := by omega
    rw [sums]
    exact ⟨rfl, sum_against_product count (by omega)⟩

/-- A map over three rows of two numbers reports five units of width and is drawn to six; one over
two rows of two is drawn to the four that it reports. -/
theorem reported_size_against_drawn_rows :
    let pairs : SourceType := .array .float 2
    let three : Request := ⟨"three", .operation ⟨pairs, .float, 3⟩⟩
    let two : Request := ⟨"two", .operation ⟨pairs, pairs, 2⟩⟩
    three.Valid ∧ two.Valid ∧
      (∃ scene, Scene.render pairwise three = .ok scene ∧ scene.width = 5 ∧
        scene.drawnWidth = 6) ∧
      ∃ scene, Scene.render pairwise two = .ok scene ∧ scene.width = 4 ∧ scene.drawnWidth = 4 := by
  intro pairs three two
  have valid : three.Valid := ⟨by decide, by decide, ⟨by decide, trivial⟩, trivial⟩
  have valid' : two.Valid := ⟨by decide, by decide, ⟨by decide, trivial⟩, by decide, trivial⟩
  have rendered : Scene.render pairwise three = .ok _ := rfl
  have rendered' : Scene.render pairwise two = .ok _ := rfl
  refine ⟨valid, valid', ⟨_, rendered, rfl, ?_⟩, ⟨_, rendered', rfl, ?_⟩⟩
  · obtain ⟨_, _, operation⟩ := reported_size_against_drawn valid rendered
    obtain ⟨i, o, v, u, input, output, width, width', _, drawn, _⟩ := operation _ rfl
    cases input
    cases output
    cases width
    cases width'
    exact drawn
  · obtain ⟨_, _, operation⟩ := reported_size_against_drawn valid' rendered'
    obtain ⟨i, o, v, u, input, output, width, width', _, drawn, _⟩ := operation _ rfl
    cases input
    cases output
    cases width
    cases width'
    exact drawn

end ArrayScene

import ArrayScene.Scene
import ArrayScene.Proofs.Copies
import Mathlib.Data.List.Count

/-!
# Drawings as tilings

An array of numbers is drawn as a tiling of the block that its width and height span: every cell of
the block has one unit square, and nothing reaches out of the block. Blocks side by side and below
each other make a larger block, so copies of a tiling are a tiling again, and the drawing of a node
follows by induction on the node.
-/
namespace ArrayScene

/-- The rectangles of a drawing are unit squares, one for each cell of the block with its corner at
`(x, y)`, and there are no others. -/
def Covers (x y w h : Int) (ps : List Primitive) : Prop :=
  ∀ a b c d, ps.count (.area .rectangle a b c d) =
    if (x ≤ a ∧ a < x + w) ∧ (y ≤ b ∧ b < y + h) ∧ c = 1 ∧ d = 1 then 1 else 0

/-- A primitive lies in a block, the edges of the block included. -/
def Primitive.Within (x y w h : Int) : Primitive → Prop
  | area _ a b c d => (x ≤ a ∧ 0 ≤ c ∧ a + c ≤ x + w) ∧ y ≤ b ∧ 0 ≤ d ∧ b + d ≤ y + h
  | arrow a b c d => ((x ≤ a ∧ a ≤ x + w) ∧ x ≤ c ∧ c ≤ x + w) ∧
      (y ≤ b ∧ b ≤ y + h) ∧ y ≤ d ∧ d ≤ y + h

/-- A drawing fills a block: it covers the block and stays within it. -/
structure Fills (x y w h : Int) (ps : List Primitive) : Prop where
  covers : Covers x y w h ps
  within : ∀ p ∈ ps, p.Within x y w h

theorem Primitive.Within.shift {x y w h : Int} {p : Primitive} (dx dy : Int)
    (within : p.Within x y w h) : (p.shift dx dy).Within (x + dx) (y + dy) w h := by
  cases p <;> simp only [Primitive.Within, Primitive.shift] at within ⊢ <;> omega

theorem Primitive.Within.mono {x y w h x' y' w' h' : Int} {p : Primitive}
    (within : p.Within x y w h) (left : x' ≤ x) (right : x + w ≤ x' + w') (top : y' ≤ y)
    (bottom : y + h ≤ y' + h') : p.Within x' y' w' h' := by
  cases p <;> simp only [Primitive.Within] at within ⊢ <;> omega

theorem Primitive.shift_injective (dx dy : Int) : Function.Injective (Primitive.shift dx dy) := by
  intro p q same
  cases p <;> cases q <;> simp only [Primitive.shift, Primitive.area.injEq, Primitive.arrow.injEq,
    reduceCtorEq, Int.add_left_inj] at same ⊢ <;> exact same

theorem count_shiftAll (dx dy : Int) (p : Primitive) (ps : List Primitive) :
    (shiftAll dx dy ps).count (p.shift dx dy) = ps.count p :=
  List.count_map_of_injective ps _ (Primitive.shift_injective dx dy) p

theorem Covers.shift {x y w h : Int} {ps : List Primitive} (dx dy : Int)
    (covers : Covers x y w h ps) : Covers (x + dx) (y + dy) w h (shiftAll dx dy ps) := by
  intro a b c d
  have moved : Primitive.area .rectangle a b c d =
      (Primitive.area .rectangle (a - dx) (b - dy) c d).shift dx dy := by
    simp only [Primitive.shift, Int.sub_add_cancel]
  rw [moved, count_shiftAll, covers]
  exact if_congr (by omega) rfl rfl

namespace Fills

theorem shift {x y w h : Int} {ps : List Primitive} (dx dy : Int) (fills : Fills x y w h ps) :
    Fills (x + dx) (y + dy) w h (shiftAll dx dy ps) := by
  refine ⟨fills.covers.shift dx dy, ?_⟩
  intro p member
  obtain ⟨q, belongs, rfl⟩ := List.mem_map.mp member
  exact (fills.within q belongs).shift dx dy

/-- Two blocks of one height side by side. -/
theorem beside {x y v w h : Int} {ps qs : List Primitive} (hv : 0 ≤ v) (hw : 0 ≤ w)
    (left : Fills x y v h ps) (right : Fills (x + v) y w h qs) :
    Fills x y (v + w) h (ps ++ qs) := by
  constructor
  · intro a b c d
    rw [List.count_append, left.covers, right.covers]
    split <;> split <;> split <;> omega
  · intro p member
    rcases List.mem_append.mp member with inLeft | inRight
    · exact (left.within p inLeft).mono (by omega) (by omega) (by omega) (by omega)
    · exact (right.within p inRight).mono (by omega) (by omega) (by omega) (by omega)

/-- Two blocks of one width below each other. -/
theorem below {x y w g h : Int} {ps qs : List Primitive} (hg : 0 ≤ g) (hh : 0 ≤ h)
    (upper : Fills x y w g ps) (lower : Fills x (y + g) w h qs) :
    Fills x y w (g + h) (ps ++ qs) := by
  constructor
  · intro a b c d
    rw [List.count_append, upper.covers, lower.covers]
    split <;> split <;> split <;> omega
  · intro p member
    rcases List.mem_append.mp member with inUpper | inLower
    · exact (upper.within p inUpper).mono (by omega) (by omega) (by omega) (by omega)
    · exact (lower.within p inLower).mono (by omega) (by omega) (by omega) (by omega)

theorem of_nil {x y w h : Int} (flat : w = 0 ∨ h = 0) : Fills x y w h [] := by
  constructor
  · intro a b c d
    rw [List.count_nil, if_neg (by omega)]
  · simp

/-- Copies of a block in a row, by adding one block at the right end after another. -/
theorem across {w h : Int} {ps : List Primitive} (hw : 0 ≤ w) (fills : Fills 0 0 w h ps) (n : Nat) :
    Fills 0 0 (n * w) h (Node.copiesAcross n w ps) := by
  induction n with
  | zero => exact of_nil (.inl (Int.zero_mul w))
  | succ n ih =>
    have next := fills.shift (n * w) 0
    rw [Int.zero_add, Int.add_zero] at next
    have joined := ih.beside (Int.mul_nonneg (Int.natCast_nonneg n) hw) hw
      (by rwa [Int.zero_add])
    rw [Node.copiesAcross_succ, Int.natCast_succ, Int.add_mul, Int.one_mul]
    exact joined

theorem down {w h : Int} {ps : List Primitive} (hh : 0 ≤ h) (fills : Fills 0 0 w h ps) (n : Nat) :
    Fills 0 0 w (n * h) (Node.copiesDown n h ps) := by
  induction n with
  | zero => exact of_nil (.inr (Int.zero_mul h))
  | succ n ih =>
    have next := fills.shift 0 (n * h)
    rw [Int.add_zero, Int.zero_add] at next
    have joined := ih.below (Int.mul_nonneg (Int.natCast_nonneg n) hh) hh
      (by rwa [Int.zero_add])
    rw [Node.copiesDown_succ, Int.natCast_succ, Int.add_mul, Int.one_mul]
    exact joined

/-- A box around the whole block changes nothing of what is covered. -/
theorem boxed {w h : Int} {ps : List Primitive} (hw : 0 ≤ w) (hh : 0 ≤ h)
    (fills : Fills 0 0 w h ps) : Fills 0 0 w h (ps ++ [.box w h]) := by
  constructor
  · intro a b c d
    rw [List.count_append, fills.covers]
    simp [Primitive.box]
  · intro p member
    rcases List.mem_append.mp member with inside | last
    · exact fills.within p inside
    · rw [List.mem_singleton.mp last]
      simp only [Primitive.box, Primitive.Within]
      omega

end Fills

namespace Node

/-- What surrounds the drawing of a value: the unit square of a number, the box of an array. -/
def frame : Node → AreaKind
  | float => .rectangle
  | _ => .box

/-- An array is as wide and as high as it says, its drawing fills the block of that size, and the
block itself is drawn last. -/
structure Tiled (node : Node) (w h : Int) (ps : List Primitive) : Prop where
  width : node.width = .ok w
  height : node.height = .ok h
  drawn : node.drawType = .ok ps
  width_nonneg : 0 ≤ w
  height_nonneg : 0 ≤ h
  fills : Fills 0 0 w h ps
  last : ps.getLast? = some (.area node.frame 0 0 w h)

theorem tiled_float : Tiled float 1 1 [.unit] where
  width := rfl
  height := rfl
  drawn := rfl
  width_nonneg := by decide
  height_nonneg := by decide
  fills := by
    constructor
    · intro a b c d
      simp only [Primitive.unit, List.count_singleton, beq_iff_eq, Primitive.area.injEq,
        true_and]
      exact if_congr (by omega) rfl rfl
    · simp [Primitive.unit, Primitive.Within]
  last := rfl

theorem Tiled.linear {e : Node} {n w h : Int} {ps : List Primitive} (element : Tiled e w h ps)
    (size : 0 ≤ n) :
    Tiled (linear e n) (n * w) h (copiesAcross n w ps ++ [.box (n * w) h]) where
  width := width_linear n element.width
  height := element.height
  drawn := drawType_linear n element.width element.height element.drawn
  width_nonneg := Int.mul_nonneg size element.width_nonneg
  height_nonneg := element.height_nonneg
  fills := by
    obtain ⟨k, rfl⟩ := Int.eq_ofNat_of_zero_le size
    exact (element.fills.across element.width_nonneg k).boxed
      (Int.mul_nonneg size element.width_nonneg) element.height_nonneg
  last := List.getLast?_concat

theorem Tiled.grid {e : Node} {n m w h : Int} {ps : List Primitive} (element : Tiled e w h ps)
    (columns : 0 ≤ n) (rows : 0 ≤ m) :
    Tiled (grid e n m) (n * w) (m * h) (copiesInGrid n m w h ps ++ [.box (n * w) (m * h)]) where
  width := width_grid n m element.width
  height := height_grid n m element.height
  drawn := drawType_grid n m element.width element.height element.drawn
  width_nonneg := Int.mul_nonneg columns element.width_nonneg
  height_nonneg := Int.mul_nonneg rows element.height_nonneg
  fills := by
    have wide := Int.mul_nonneg columns element.width_nonneg
    have high := Int.mul_nonneg rows element.height_nonneg
    obtain ⟨k, rfl⟩ := Int.eq_ofNat_of_zero_le columns
    obtain ⟨l, rfl⟩ := Int.eq_ofNat_of_zero_le rows
    rw [copiesInGrid_eq]
    exact ((element.fills.down element.height_nonneg l).across element.width_nonneg k).boxed
      wide high
  last := List.getLast?_concat

/-- Every array of numbers can be measured and drawn, whatever the nesting of its tiers. -/
theorem tiled_of_isArray {node : Node} (array : node.IsArray 0) : ∃ w h ps, Tiled node w h ps := by
  induction array with
  | float => exact ⟨1, 1, _, tiled_float⟩
  | linear _ size ih =>
    obtain ⟨w, h, ps, element⟩ := ih
    exact ⟨_, h, _, element.linear size⟩
  | grid _ columns rows ih =>
    obtain ⟨w, h, ps, element⟩ := ih
    exact ⟨_, _, _, element.grid columns rows⟩

end Node

theorem farthest_eq {edge : Int} {edges : List Int} (reached : edge ∈ edges)
    (within : ∀ e ∈ edges, e ≤ edge) : Scene.farthest edges = edge := by
  have greatest : edges.max? = some edge := List.max?_eq_some_iff.mpr ⟨reached, within⟩
  rw [Scene.farthest, greatest, Option.getD_some]

theorem Primitive.Within.edges {w h : Int} {p : Primitive} (within : p.Within 0 0 w h) :
    p.right ≤ w ∧ p.bottom ≤ h := by
  cases p <;> simp only [Primitive.Within, Primitive.right, Primitive.bottom] at within ⊢ <;> omega

/-- A scene is drawn to the size of a block that it stays within, if some primitive reaches the
right edge of the block and some primitive its bottom edge. -/
theorem drawn_extent_of_reached {scene : Scene} {w h : Int} {p q : Primitive}
    (within : ∀ p ∈ scene.primitives, p.Within 0 0 w h) (rightmost : p ∈ scene.primitives)
    (right : p.right = w) (lowest : q ∈ scene.primitives) (bottom : q.bottom = h) :
    scene.drawnWidth = w ∧ scene.drawnHeight = h := by
  constructor
  · apply farthest_eq
    · exact List.mem_map.mpr ⟨p, rightmost, right⟩
    · rintro e member
      obtain ⟨p, belongs, rfl⟩ := List.mem_map.mp member
      exact (within p belongs).edges.1
  · apply farthest_eq
    · exact List.mem_map.mpr ⟨q, lowest, bottom⟩
    · rintro e member
      obtain ⟨p, belongs, rfl⟩ := List.mem_map.mp member
      exact (within p belongs).edges.2

/-- A scene that stays within a block and has the block among its areas is drawn to the size of the
block. -/
theorem drawn_extent_of_within {scene : Scene} {w h : Int} {kind : AreaKind}
    (within : ∀ p ∈ scene.primitives, p.Within 0 0 w h)
    (block : .area kind 0 0 w h ∈ scene.primitives) :
    scene.drawnWidth = w ∧ scene.drawnHeight = h :=
  drawn_extent_of_reached within block (Int.zero_add w) block (Int.zero_add h)

/-- The drawing of an array tiles the block that the array measures: a unit square for each cell,
all within the block, the block itself last, and so it is drawn to exactly the measured size. -/
theorem drawing_tiles_measured_block {node : Node} (array : node.IsArray 0) :
    ∃ w h ps, node.width = .ok w ∧ node.height = .ok h ∧ node.drawType = .ok ps ∧
      Covers 0 0 w h ps ∧ (∀ p ∈ ps, p.Within 0 0 w h) ∧
      ps.getLast? = some (.area node.frame 0 0 w h) ∧
      ∀ scene : Scene, scene.primitives = ps → scene.drawnWidth = w ∧ scene.drawnHeight = h := by
  obtain ⟨w, h, ps, tiled⟩ := Node.tiled_of_isArray array
  refine ⟨w, h, ps, tiled.width, tiled.height, tiled.drawn, tiled.fills.covers, tiled.fills.within,
    tiled.last, ?_⟩
  rintro scene rfl
  exact drawn_extent_of_within tiled.fills.within (List.mem_of_getLast? tiled.last)

/-- A row of two grids of rows of numbers, and a row without elements. -/
theorem drawing_tiles_nested_rows :
    (Node.linear (.grid (.linear .float 2) 2 3) 2).IsArray 0 ∧
      (Node.grid (.linear .float 0) 2 3).IsArray 0 ∧
      (∃ ps, (Node.linear (.grid (.linear .float 2) 2 3) 2).drawType = .ok ps ∧
        Covers 0 0 8 3 ps ∧ ps.getLast? = some (.area .box 0 0 8 3)) ∧
      ∃ ps, (Node.grid (.linear .float 0) 2 3).drawType = .ok ps ∧
        Covers 0 0 0 3 ps ∧ ps.getLast? = some (.area .box 0 0 0 3) := by
  have rows : (Node.linear (.grid (.linear .float 2) 2 3) 2).IsArray 0 :=
    .linear (.grid (.linear .float (by decide)) (by decide) (by decide)) (by decide)
  have hollow : (Node.grid (.linear .float 0) 2 3).IsArray 0 :=
    .grid (.linear .float (by decide)) (by decide) (by decide)
  refine ⟨rows, hollow, ?_, ?_⟩
  · obtain ⟨w, h, ps, width, height, drawn, covers, _, last, _⟩ := drawing_tiles_measured_block rows
    cases Except.ok.inj width
    cases Except.ok.inj height
    exact ⟨ps, drawn, covers, last⟩
  · obtain ⟨w, h, ps, width, height, drawn, covers, _, last, _⟩ :=
      drawing_tiles_measured_block hollow
    cases Except.ok.inj width
    cases Except.ok.inj height
    exact ⟨ps, drawn, covers, last⟩

end ArrayScene

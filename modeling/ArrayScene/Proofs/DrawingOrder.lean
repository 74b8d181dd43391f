import ArrayScene.Proofs.MapLayout
import ArrayScene.Proofs.Dimensions

/-!
# The order of a drawing

What is drawn later covers what is drawn earlier, or lies elsewhere. Two areas of a drawing that
share a unit cell are nested, the earlier one within the later one, and two rectangles never share
a cell. Copies of an element keep this because they lie in blocks next to each other, and the box
of an array because it holds all that is drawn in the array before it.
-/
namespace ArrayScene

namespace Primitive

/-- An area holds the unit cell with its corner at `(a, b)`. An arrow holds none. -/
def HasCell (a b : Int) : Primitive → Prop
  | area _ x y w h => (x ≤ a ∧ a < x + w) ∧ y ≤ b ∧ b < y + h
  | arrow _ _ _ _ => False

/-- No cell of the one is a cell of the other. -/
def Apart (p q : Primitive) : Prop := ∀ a b, p.HasCell a b → ¬q.HasCell a b

/-- Every cell of the one is a cell of the other. -/
def Inside (p q : Primitive) : Prop := ∀ a b, p.HasCell a b → q.HasCell a b

/-- How a primitive may be followed by another: by one that lies elsewhere, or by one that holds all
of its cells and is no rectangle. -/
def Layered (p q : Primitive) : Prop := p.Apart q ∨ p.Inside q ∧ q.isRectangle = false

theorem hasCell_shift {a b dx dy : Int} {p : Primitive} :
    (p.shift dx dy).HasCell a b ↔ p.HasCell (a - dx) (b - dy) := by
  cases p with
  | area kind x y w h =>
    simp only [shift, HasCell]
    omega
  | arrow => rfl

/-- What lies in a block has its cells in the block. -/
theorem Within.cell {x y w h a b : Int} {p : Primitive} (within : p.Within x y w h)
    (cell : p.HasCell a b) : (x ≤ a ∧ a < x + w) ∧ y ≤ b ∧ b < y + h := by
  cases p with
  | area kind c d u v =>
    simp only [Within, HasCell] at within cell
    omega
  | arrow => cases cell

/-- Blocks beside or below each other share no cell. -/
theorem Within.apart {x y w h x' y' w' h' : Int} {p q : Primitive} (first : p.Within x y w h)
    (second : q.Within x' y' w' h') (clear : x + w ≤ x' ∨ y + h ≤ y') : p.Apart q := by
  intro a b cell cell'
  have inFirst := first.cell cell
  have inSecond := second.cell cell'
  omega

/-- The box of a block holds all that lies in the block. -/
theorem Within.inside_box {w h : Int} {p : Primitive} (within : p.Within 0 0 w h) :
    p.Inside (.box w h) := fun _ _ cell => within.cell cell

theorem Layered.shift {p q : Primitive} (dx dy : Int) (layered : p.Layered q) :
    (p.shift dx dy).Layered (q.shift dx dy) := by
  unfold Layered Apart Inside at *
  simp only [hasCell_shift, isRectangle_shift]
  rcases layered with apart | ⟨inside, area⟩
  · exact .inl fun a b => apart _ _
  · exact .inr ⟨fun a b => inside _ _, area⟩

/-- A rectangle covers nothing that is drawn before it. -/
theorem Layered.apart_of_isRectangle {p q : Primitive} (layered : p.Layered q)
    (rectangle : q.isRectangle = true) : p.Apart q := by
  rcases layered with apart | ⟨_, area⟩
  · exact apart
  · rw [rectangle] at area
    cases area

end Primitive

open Primitive

theorem within_shiftAll {x y w h : Int} {ps : List Primitive} (dx dy : Int)
    (within : ∀ p ∈ ps, p.Within x y w h) :
    ∀ p ∈ shiftAll dx dy ps, p.Within (x + dx) (y + dy) w h := by
  intro p member
  obtain ⟨q, belongs, rfl⟩ := List.mem_map.mp member
  exact (within q belongs).shift dx dy

/-- Of blocks laid one after another, a later one begins behind an earlier one. -/
theorem clear_of_lt {v : Int} (nonneg : 0 ≤ v) {i j : Nat} (earlier : i < j) :
    (i : Int) * v + v ≤ j * v := by
  have step : ((i : Int) + 1) * v ≤ j * v := Int.mul_le_mul_of_nonneg_right (by omega) nonneg
  rwa [Int.add_mul, Int.one_mul] at step

section Layers

variable {w h : Int} {ps : List Primitive}

theorem layered_shiftAll (dx dy : Int) (layered : ps.Pairwise Layered) :
    (shiftAll dx dy ps).Pairwise Layered :=
  layered.map _ fun _ _ => Layered.shift dx dy

/-- Drawings in blocks beside or below each other, one after the other. -/
theorem layered_append {x y x' y' w' h' : Int} {qs : List Primitive}
    (first : ps.Pairwise Layered) (second : qs.Pairwise Layered)
    (inFirst : ∀ p ∈ ps, p.Within x y w h) (inSecond : ∀ q ∈ qs, q.Within x' y' w' h')
    (clear : x + w ≤ x' ∨ y + h ≤ y') : (ps ++ qs).Pairwise Layered :=
  List.pairwise_append.mpr ⟨first, second, fun p before q after =>
    .inl ((inFirst p before).apart (inSecond q after) clear)⟩

variable (within : ∀ p ∈ ps, p.Within 0 0 w h) (layered : ps.Pairwise Layered)
include within layered

/-- Copies of a block at places that are clear of each other. -/
theorem layered_copies {dx dy : Nat → Int} (n : Nat)
    (clear : ∀ i j, i < j → dx i + w ≤ dx j ∨ dy i + h ≤ dy j) :
    ((List.range n).flatMap fun i => shiftAll (dx i) (dy i) ps).Pairwise Layered := by
  rw [List.pairwise_flatMap]
  refine ⟨fun i _ => layered_shiftAll _ _ layered, List.pairwise_lt_range.imp ?_⟩
  intro i j earlier p before q after
  have inFirst := within_shiftAll (dx i) (dy i) within p before
  have inSecond := within_shiftAll (dx j) (dy j) within q after
  rw [Int.zero_add, Int.zero_add] at inFirst inSecond
  exact .inl (inFirst.apart inSecond (clear i j earlier))

theorem layered_copiesAcross (nonneg : 0 ≤ w) (n : Int) :
    (Node.copiesAcross n w ps).Pairwise Layered :=
  layered_copies within layered n.toNat fun _ _ earlier => .inl (clear_of_lt nonneg earlier)

theorem layered_copiesDown (nonneg : 0 ≤ h) (n : Int) :
    (Node.copiesDown n h ps).Pairwise Layered :=
  layered_copies within layered n.toNat fun _ _ earlier => .inr (clear_of_lt nonneg earlier)

theorem layered_boxed : (ps ++ [Primitive.box w h]).Pairwise Layered := by
  refine List.pairwise_append.mpr ⟨layered, List.pairwise_singleton _ _, ?_⟩
  intro p before q last
  rw [List.mem_singleton.mp last]
  exact .inr ⟨(within p before).inside_box, rfl⟩

end Layers

namespace Node

/-- An array of numbers is drawn in layers. -/
theorem layered_of_isArray {node : Node} (array : node.IsArray 0) :
    ∃ w h ps, Tiled node w h ps ∧ ps.Pairwise Layered := by
  induction array with
  | float => exact ⟨1, 1, _, tiled_float, List.pairwise_singleton _ _⟩
  | @linear e n _ size ih =>
    obtain ⟨w, h, ps, element, layered⟩ := ih
    have row := element.linear size
    refine ⟨_, _, _, row, layered_boxed (List.forall_mem_append.mp row.fills.within).1 ?_⟩
    exact layered_copiesAcross element.fills.within layered element.width_nonneg n
  | @grid e n m _ columns rows ih =>
    obtain ⟨w, h, ps, element, layered⟩ := ih
    have grid := element.grid columns rows
    refine ⟨_, _, _, grid, layered_boxed (List.forall_mem_append.mp grid.fills.within).1 ?_⟩
    have column := layered_copiesDown element.fills.within layered element.height_nonneg m
    have inColumn := (element.fills.down element.height_nonneg m.toNat).within
    rw [Int.toNat_of_nonneg rows] at inColumn
    rw [copiesInGrid_eq]
    exact layered_copiesAcross inColumn column element.width_nonneg n

/-- So is a map between two such arrays: its two rows lie clear of each other, and the arrow holds
no cell. -/
theorem layered_map {i o : Node} {n : Int} (input : i.IsArray 0) (output : o.IsArray 0)
    (count : 0 ≤ n) : ∃ ps, (map i o n).draw = .ok ps ∧ ps.Pairwise Layered := by
  obtain ⟨wi, hi, above, upper, layeredAbove⟩ := layered_of_isArray (input.linear count)
  obtain ⟨wo, ho, below, lower, layeredBelow⟩ := layered_of_isArray (output.linear count)
  refine ⟨_, drawOperation_map upper lower, ?_⟩
  have placedAbove := placed_of_tiled ((max wi wo - wi) / 2) 0 upper
  have placedBelow := placed_of_tiled ((max wi wo - wo) / 2) (hi + mapGap) lower
  have rows := layered_append (layered_shiftAll _ _ layeredAbove)
    (layered_shiftAll _ _ layeredBelow) placedAbove.fills.within placedBelow.fills.within
    (.inr (by simp [mapGap]))
  refine List.pairwise_append.mpr ⟨rows, List.pairwise_singleton _ _, ?_⟩
  intro p _ q last
  rw [List.mem_singleton.mp last]
  exact .inl fun _ _ _ => id

end Node

/-- A drawing painted from the inside out: of two areas that share a cell the later one holds all of
the earlier one, and two rectangles share none. -/
structure InsideOut (ps : List Primitive) : Prop where
  nested : ps.Pairwise fun p q => p.Apart q ∨ p.Inside q
  rectangles : ps.Pairwise fun p q => p.isRectangle = true → q.isRectangle = true → p.Apart q

theorem insideOut_of_layered {ps : List Primitive} (layered : ps.Pairwise Layered) :
    InsideOut ps where
  nested := layered.imp fun l => l.imp_right And.left
  rectangles := layered.imp fun l _ rectangle => l.apart_of_isRectangle rectangle

/-- Drawings are painted from the inside out. Of any two areas in the drawing of an array of
numbers, or of a map between two such arrays, either no cell of the earlier one is a cell of the
later one, or all of its cells are. So areas never overlap in part, what is in a box comes before
the box, and no two rectangles overlap. -/
theorem drawn_areas_nest :
    (∀ node : Node, node.IsArray 0 → ∃ ps, node.draw = .ok ps ∧ InsideOut ps) ∧
    ∀ (i o : Node) (n : Int), i.IsArray 0 → o.IsArray 0 → 0 ≤ n →
      ∃ ps, (Node.map i o n).draw = .ok ps ∧ InsideOut ps := by
  constructor
  · intro node array
    obtain ⟨w, h, ps, tiled, layered⟩ := Node.layered_of_isArray array
    have number := (Node.isArray_iff.mp array).1
    exact ⟨ps, (Node.draw_of_core number).trans tiled.drawn, insideOut_of_layered layered⟩
  · intro i o n input output count
    obtain ⟨ps, drawn, layered⟩ := Node.layered_map input output count
    exact ⟨ps, drawn, insideOut_of_layered layered⟩

/-- Two rows of two numbers, where the first square lies within the box of its row and clear of the
other row; and a map from such rows to nothing. -/
theorem drawn_areas_nest_rows :
    (Node.linear (.linear .float 2) 2).IsArray 0 ∧ (Node.linear .float 0).IsArray 0 ∧
      (∃ ps, (Node.linear (.linear .float 2) 2).draw = .ok ps ∧
        ps = [.area .rectangle 0 0 1 1, .area .rectangle 1 0 1 1, .area .box 0 0 2 1,
          .area .rectangle 2 0 1 1, .area .rectangle 3 0 1 1, .area .box 2 0 2 1,
          .area .box 0 0 4 1] ∧
        InsideOut ps) ∧
      ∃ ps, (Node.map (.linear .float 2) (.linear .float 0) 1).draw = .ok ps ∧
        ps = [.area .rectangle 0 0 1 1, .area .rectangle 1 0 1 1, .area .box 0 0 2 1,
          .area .box 0 0 2 1, .area .box 1 6 0 1, .area .box 1 6 0 1, .arrow 1 1 1 6] ∧
        InsideOut ps := by
  have rows : (Node.linear (.linear .float 2) 2).IsArray 0 :=
    .linear (.linear .float (by decide)) (by decide)
  have pair : (Node.linear .float 2).IsArray 0 := .linear .float (by decide)
  have empty : (Node.linear .float 0).IsArray 0 := .linear .float (by decide)
  refine ⟨rows, empty, ?_, ?_⟩
  · obtain ⟨ps, drawn, painted⟩ := drawn_areas_nest.1 _ rows
    exact ⟨ps, drawn, (Except.ok.inj drawn).symm, painted⟩
  · obtain ⟨ps, drawn, painted⟩ := drawn_areas_nest.2 _ _ 1 pair empty (by decide)
    exact ⟨ps, drawn, (Except.ok.inj drawn).symm, painted⟩

end ArrayScene

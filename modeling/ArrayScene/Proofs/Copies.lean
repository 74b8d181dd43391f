import ArrayScene.Drawing
import ArrayScene.Proofs.Arrays

/-!
# Copies of a drawing

How the moved copies that arrays are drawn from are put together. Copies in a row are one copy
more than the copies before, and a grid is a row of its first column, so what holds of copies side
by side and of copies below each other holds of grids.
-/
namespace ArrayScene

theorem shiftAll_shiftAll (a b c d : Int) (ps : List Primitive) :
    shiftAll c d (shiftAll a b ps) = shiftAll (a + c) (b + d) ps := by
  unfold shiftAll
  rw [List.map_map]
  exact List.map_congr_left fun p _ => Primitive.shift_shift a b c d p

theorem shiftAll_flatMap {α : Type} (dx dy : Int) (items : List α) (f : α → List Primitive) :
    shiftAll dx dy (items.flatMap f) = items.flatMap fun a => shiftAll dx dy (f a) :=
  List.map_flatMap ..

/-- Whether a primitive is a rectangle, and not a box, a plain area or an arrow. -/
def Primitive.isRectangle : Primitive → Bool
  | area .rectangle _ _ _ _ => true
  | _ => false

@[simp] theorem Primitive.isRectangle_shift (dx dy : Int) (p : Primitive) :
    (p.shift dx dy).isRectangle = p.isRectangle := by
  cases p with
  | area kind => cases kind <;> rfl
  | arrow => rfl

/-- The rectangles of a drawing in their order. -/
def rectangles (ps : List Primitive) : List Primitive := ps.filter Primitive.isRectangle

@[simp] theorem rectangles_append (ps qs : List Primitive) :
    rectangles (ps ++ qs) = rectangles ps ++ rectangles qs :=
  List.filter_append ..

@[simp] theorem rectangles_box (w h : Int) : rectangles [.box w h] = [] := rfl

@[simp] theorem length_shiftAll (dx dy : Int) (ps : List Primitive) :
    (shiftAll dx dy ps).length = ps.length :=
  List.length_map ..

namespace Node

/-- Copies of a drawing, `count` of them, one `dy` below another. -/
def copiesDown (count dy : Int) (ps : List Primitive) : List Primitive :=
  (List.range count.toNat).flatMap fun (j : Nat) => shiftAll 0 (j * dy) ps

/-- The copies of a drawing in the column of a grid that begins at `x`, from the top. -/
def column (rows x dy : Int) (ps : List Primitive) : List Primitive :=
  (List.range rows.toNat).flatMap fun (j : Nat) => shiftAll x (j * dy) ps

theorem copiesInGrid_eq_columns (columns rows dx dy : Int) (ps : List Primitive) :
    copiesInGrid columns rows dx dy ps =
      (List.range columns.toNat).flatMap fun (i : Nat) => column rows (i * dx) dy ps :=
  rfl

theorem shiftAll_copiesDown (rows x dy : Int) (ps : List Primitive) :
    shiftAll x 0 (copiesDown rows dy ps) = column rows x dy ps := by
  unfold copiesDown column
  rw [shiftAll_flatMap]
  congr 1
  funext j
  rw [shiftAll_shiftAll, Int.zero_add, Int.add_zero]

/-- A grid is a row of copies of its first column. -/
theorem copiesInGrid_eq (columns rows dx dy : Int) (ps : List Primitive) :
    copiesInGrid columns rows dx dy ps = copiesAcross columns dx (copiesDown rows dy ps) := by
  simp only [copiesInGrid_eq_columns, copiesAcross, shiftAll_copiesDown]

theorem copiesAcross_succ (n : Nat) (dx : Int) (ps : List Primitive) :
    copiesAcross (n + 1 : Nat) dx ps = copiesAcross n dx ps ++ shiftAll (n * dx) 0 ps := by
  simp only [copiesAcross, Int.toNat_natCast, List.range_succ, List.flatMap_append,
    List.flatMap_singleton]

theorem copiesDown_succ (n : Nat) (dy : Int) (ps : List Primitive) :
    copiesDown (n + 1 : Nat) dy ps = copiesDown n dy ps ++ shiftAll 0 (n * dy) ps := by
  simp only [copiesDown, Int.toNat_natCast, List.range_succ, List.flatMap_append,
    List.flatMap_singleton]

section Filter

/-! What is picked out of copies by a test that moving does not change. -/

variable {test : Primitive → Bool} (moved : ∀ p dx dy, test (p.shift dx dy) = test p)
include moved

theorem filter_shiftAll (dx dy : Int) (ps : List Primitive) :
    (shiftAll dx dy ps).filter test = shiftAll dx dy (ps.filter test) := by
  have still : test ∘ Primitive.shift dx dy = test := funext fun p => moved p dx dy
  unfold shiftAll
  rw [List.filter_map, still]

theorem filter_copiesAcross (n dx : Int) (ps : List Primitive) :
    (copiesAcross n dx ps).filter test = copiesAcross n dx (ps.filter test) := by
  simp only [copiesAcross, List.filter_flatMap, filter_shiftAll moved]

theorem filter_copiesInGrid (n m dx dy : Int) (ps : List Primitive) :
    (copiesInGrid n m dx dy ps).filter test = copiesInGrid n m dx dy (ps.filter test) := by
  simp only [copiesInGrid, List.filter_flatMap, filter_shiftAll moved]

end Filter

theorem rectangles_copiesAcross (n dx : Int) (ps : List Primitive) :
    rectangles (copiesAcross n dx ps) = copiesAcross n dx (rectangles ps) :=
  filter_copiesAcross (fun p dx dy => p.isRectangle_shift dx dy) n dx ps

theorem rectangles_copiesInGrid (n m dx dy : Int) (ps : List Primitive) :
    rectangles (copiesInGrid n m dx dy ps) = copiesInGrid n m dx dy (rectangles ps) :=
  filter_copiesInGrid (fun p dx dy => p.isRectangle_shift dx dy) n m dx dy ps

theorem length_copiesAcross (n dx : Int) (ps : List Primitive) :
    (copiesAcross n dx ps).length = n.toNat * ps.length := by
  simp [copiesAcross, List.length_flatMap, List.map_const']

theorem length_copiesInGrid (n m dx dy : Int) (ps : List Primitive) :
    (copiesInGrid n m dx dy ps).length = n.toNat * (m.toNat * ps.length) := by
  simp [copiesInGrid, List.length_flatMap, List.map_const']

/-- What holds of some primitives wherever they are moved holds of all their copies in a row. -/
theorem forall_mem_copiesAcross {P : Primitive → Prop} {ps : List Primitive} (n dx : Int)
    (moved : ∀ p x y, P p → P (p.shift x y)) (holds : ∀ p ∈ ps, P p) :
    ∀ p ∈ copiesAcross n dx ps, P p := by
  intro p member
  obtain ⟨i, _, copied⟩ := List.mem_flatMap.mp member
  obtain ⟨q, belongs, rfl⟩ := List.mem_map.mp copied
  exact moved q _ _ (holds q belongs)

theorem forall_mem_copiesInGrid {P : Primitive → Prop} {ps : List Primitive} (n m dx dy : Int)
    (moved : ∀ p x y, P p → P (p.shift x y)) (holds : ∀ p ∈ ps, P p) :
    ∀ p ∈ copiesInGrid n m dx dy ps, P p := by
  intro p member
  obtain ⟨i, _, column⟩ := List.mem_flatMap.mp member
  obtain ⟨j, _, copied⟩ := List.mem_flatMap.mp column
  obtain ⟨q, belongs, rfl⟩ := List.mem_map.mp copied
  exact moved q _ _ (holds q belongs)

theorem drawType_linear {e : Node} {w h : Int} {ps : List Primitive} (n : Int)
    (width : e.width = .ok w) (height : e.height = .ok h) (drawn : e.drawType = .ok ps) :
    (linear e n).drawType = .ok (copiesAcross n w ps ++ [.box (n * w) h]) := by
  simp only [drawType, width, height, drawn, bind, Except.bind]

theorem drawType_grid {e : Node} {w h : Int} {ps : List Primitive} (n m : Int)
    (width : e.width = .ok w) (height : e.height = .ok h) (drawn : e.drawType = .ok ps) :
    (grid e n m).drawType = .ok (copiesInGrid n m w h ps ++ [.box (n * w) (m * h)]) := by
  simp only [drawType, width, height, drawn, bind, Except.bind]

/-- What holds of the unit square and of every box, wherever they are moved, holds of everything
that a value is drawn with. -/
theorem forall_mem_drawType {P : Primitive → Prop} (moved : ∀ p x y, P p → P (p.shift x y))
    (unit : P .unit) (box : ∀ w h, P (.box w h)) {node : Node} {ps : List Primitive}
    (drawn : node.drawType = .ok ps) : ∀ p ∈ ps, P p := by
  induction node generalizing ps with
  | float =>
    cases drawn
    exact List.forall_mem_singleton.mpr unit
  | linear e n ih =>
    obtain ⟨w, _, afterWidth⟩ := exists_of_bind_eq_ok drawn
    obtain ⟨h, _, afterHeight⟩ := exists_of_bind_eq_ok afterWidth
    obtain ⟨qs, element, last⟩ := exists_of_bind_eq_ok afterHeight
    cases last
    refine List.forall_mem_append.mpr ⟨?_, List.forall_mem_singleton.mpr (box _ _)⟩
    exact forall_mem_copiesAcross n w moved (ih element)
  | grid e n m ih =>
    obtain ⟨w, _, afterWidth⟩ := exists_of_bind_eq_ok drawn
    obtain ⟨h, _, afterHeight⟩ := exists_of_bind_eq_ok afterWidth
    obtain ⟨qs, element, last⟩ := exists_of_bind_eq_ok afterHeight
    cases last
    refine List.forall_mem_append.mpr ⟨?_, List.forall_mem_singleton.mpr (box _ _)⟩
    exact forall_mem_copiesInGrid n m w h moved (ih element)
  | map i o n => cases drawn
  | bare c => cases drawn

end Node

end ArrayScene

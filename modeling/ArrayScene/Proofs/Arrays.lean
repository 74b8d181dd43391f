import ArrayScene.Node.Extent
import Mathlib.Algebra.BigOperators.Group.List.Basic
import Mathlib.Tactic.Ring

/-!
# Arrays of numbers

The nodes that stand for values: a number, and rows and grids around it. Such a node always has a
width and a height, and their product is the product of its sizes, as is the count of its numbers.
-/
namespace ArrayScene

/-- Where a sequence of two steps gives a result, each of them gave one. -/
theorem exists_of_bind_eq_ok {ε α β : Type} {x : Except ε α} {f : α → Except ε β} {b : β}
    (result : x >>= f = .ok b) : ∃ a, x = .ok a ∧ f a = .ok b := by
  cases x with
  | error e => cases result
  | ok a => exact ⟨a, rfl, result⟩

theorem exists_of_map_eq_ok {ε α β : Type} {x : Except ε α} {f : α → β} {b : β}
    (result : x.map f = .ok b) : ∃ a, x = .ok a ∧ f a = b := by
  cases x with
  | error e => cases result
  | ok a => exact ⟨a, rfl, Except.ok.inj result⟩

namespace Node

/-- A number, or rows and grids of numbers in any nesting, with `least` or more elements along each
of their sides. -/
inductive IsArray (least : Int) : Node → Prop
  | float : IsArray least float
  | linear {e : Node} {n : Int} (element : IsArray least e) (size : least ≤ n) :
      IsArray least (linear e n)
  | grid {e : Node} {n m : Int} (element : IsArray least e) (columns : least ≤ n)
      (rows : least ≤ m) : IsArray least (grid e n m)

theorem isArray_iff {least : Int} {node : Node} :
    node.IsArray least ↔ node.core = .float ∧ ∀ n ∈ node.tierSizes, least ≤ n := by
  induction node with
  | float => simp [core, tierSizes, IsArray.float]
  | linear e n ih =>
    simp only [core, tierSizes, List.forall_mem_cons]
    constructor
    · rintro (_ | ⟨element, size⟩)
      exact ⟨(ih.mp element).1, size, (ih.mp element).2⟩
    · rintro ⟨number, size, sizes⟩
      exact .linear (ih.mpr ⟨number, sizes⟩) size
  | grid e n m ih =>
    simp only [core, tierSizes, List.forall_mem_cons]
    constructor
    · rintro (_ | _ | ⟨element, columns, rows⟩)
      exact ⟨(ih.mp element).1, columns, rows, (ih.mp element).2⟩
    · rintro ⟨number, columns, rows, sizes⟩
      exact .grid (ih.mpr ⟨number, sizes⟩) columns rows
  | map i o n =>
    simp only [core, reduceCtorEq, false_and, iff_false]
    rintro (_ | _ | _)
  | bare c =>
    simp only [core, reduceCtorEq, false_and, iff_false]
    rintro (_ | _ | _)

/-- How many numbers an array holds when all its elements are counted out; a size below zero counts
as none. -/
def leafCount : Node → Nat
  | float => 1
  | linear e n => n.toNat * e.leafCount
  | grid e n m => n.toNat * (m.toNat * e.leafCount)
  | _ => 0

theorem width_linear {e : Node} {w : Int} (n : Int) (width : e.width = .ok w) :
    (linear e n).width = .ok (n * w) := by
  simp only [Node.width, width, bind, Except.bind, Int.mul_comm w n]

theorem width_grid {e : Node} {w : Int} (n m : Int) (width : e.width = .ok w) :
    (grid e n m).width = .ok (n * w) := by
  simp only [Node.width, width, bind, Except.bind, Int.mul_comm w n]

theorem height_grid {e : Node} {h : Int} (n m : Int) (height : e.height = .ok h) :
    (grid e n m).height = .ok (m * h) := by
  simp only [Node.height, height, bind, Except.bind, Int.mul_comm h m]

/-- Above a number the sizes of the tiers multiply up to the area. -/
theorem area_of_core {node : Node} (number : node.core = .float) :
    ∃ w h, node.width = .ok w ∧ node.height = .ok h ∧ w * h = node.tierSizes.prod := by
  induction node with
  | float => exact ⟨1, 1, rfl, rfl, rfl⟩
  | linear e n ih =>
    obtain ⟨w, h, width, height, area⟩ := ih number
    refine ⟨n * w, h, width_linear n width, height, ?_⟩
    rw [tierSizes, List.prod_cons, ← area, Int.mul_assoc]
  | grid e n m ih =>
    obtain ⟨w, h, width, height, area⟩ := ih number
    refine ⟨n * w, m * h, width_grid n m width, height_grid n m height, ?_⟩
    rw [tierSizes, List.prod_cons, List.prod_cons, ← area]
    ring
  | map i o n => cases number
  | bare c => cases number

theorem leafCount_of_core {node : Node} (number : node.core = .float) :
    node.leafCount = (node.tierSizes.map Int.toNat).prod := by
  induction node with
  | float => rfl
  | linear e n ih => rw [leafCount, tierSizes, List.map_cons, List.prod_cons, ih number]
  | grid e n m ih =>
    rw [leafCount, tierSizes, List.map_cons, List.map_cons, List.prod_cons, List.prod_cons,
      ih number]
  | map i o n => cases number
  | bare c => cases number

end Node

theorem natCast_prod_toNat {sizes : List Int} (nonneg : ∀ n ∈ sizes, 0 ≤ n) :
    ((sizes.map Int.toNat).prod : Int) = sizes.prod := by
  induction sizes with
  | nil => rfl
  | cons n rest ih =>
    rw [List.forall_mem_cons] at nonneg
    rw [List.map_cons, List.prod_cons, List.prod_cons, Int.natCast_mul,
      Int.toNat_of_nonneg nonneg.1, ih nonneg.2]

end ArrayScene

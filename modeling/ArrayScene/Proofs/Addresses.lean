import ArrayScene.Proofs.Dimensions
import ArrayScene.Proofs.PairedTiers
import Mathlib.Data.List.Forall2

/-!
# Addresses of elements

Where the default rule draws the element of a nested array that has a given index. The dimensions
at odd places run across and those at even places run down; on each axis the index of the element
is read as a number in the mixed base of the sizes. The squares are drawn in the order of their
indices, so the whole index read in this way is the rank of the square among all of them.
-/
namespace ArrayScene

/-- The items at the first, third, fifth and further odd places. -/
def oddPlaces {α : Type} : List α → List α
  | [] => []
  | [a] => [a]
  | a :: _ :: rest => a :: oddPlaces rest

/-- The items at the second, fourth and further even places. -/
def evenPlaces {α : Type} : List α → List α
  | [] => []
  | [_] => []
  | _ :: b :: rest => b :: evenPlaces rest

/-- Each part of an index lies within its size. -/
def IsIndex (sizes index : List Int) : Prop :=
  List.Forall₂ (fun n i => 0 ≤ i ∧ i < n) sizes index

/-- The place of an index in row-major order: each of its parts times the sizes after it. -/
def rowMajor : List Int → List Int → Int
  | _ :: sizes, i :: index => i * sizes.prod + rowMajor sizes index
  | _, _ => 0

/-- All indices in lexicographic order. -/
def indices : List Int → List (List Int)
  | [] => [[]]
  | n :: sizes => (List.range n.toNat).flatMap fun (i : Nat) => (indices sizes).map ((i : Int) :: ·)

/-- Arrays of numbers with the given sizes, the first one outermost. -/
def SourceType.nested : List Int → SourceType
  | [] => .float
  | n :: sizes => .array (nested sizes) n

/-- The square of the element with an index. -/
def square (sizes index : List Int) : Primitive :=
  .area .rectangle (rowMajor (oddPlaces sizes) (oddPlaces index))
    (rowMajor (evenPlaces sizes) (evenPlaces index)) 1 1

namespace SourceType

@[simp] theorem sizes_nested (sizes : List Int) : (nested sizes).sizes = sizes := by
  induction sizes with
  | nil => rfl
  | cons n sizes ih => rw [nested, SourceType.sizes, ih]

theorem ofBottom_nested (sizes : List Int) : Node.ofBottom (nested sizes) = .ok .float := by
  induction sizes with
  | nil => rfl
  | cons n sizes ih => exact ih

/-- The default rule turns arrays of numbers into tiers of two sizes at a time. -/
theorem ofType_nested (sizes : List Int) :
    Node.ofType pairwise (nested sizes) = .ok (Node.pairTiers .float sizes) := by
  cases sizes with
  | nil => rfl
  | cons n sizes =>
    rw [nested, Node.ofType, sizes_nested, ofBottom_nested,
      Node.ofSizes_pairwise _ (List.cons_ne_nil n sizes)]
    rfl

end SourceType

theorem square_singleton (n i : Int) : square [n] [i] = Primitive.unit.shift (i * 1) 0 := by
  simp [square, oddPlaces, evenPlaces, rowMajor, Primitive.unit, Primitive.shift]

theorem square_cons_cons (n m i j : Int) (sizes index : List Int) :
    square (n :: m :: sizes) (i :: j :: index) =
      (square sizes index).shift (i * (oddPlaces sizes).prod) (j * (evenPlaces sizes).prod) := by
  simp only [square, oddPlaces, evenPlaces, rowMajor, Primitive.shift, Int.add_comm]

namespace Node

/-- Tiers of two sizes at a time span the sizes at odd places across and those at even places down,
and their squares are drawn index by index. -/
theorem drawn_pairTiers (sizes : List Int) :
    ∃ ps, (pairTiers float sizes).width = .ok (oddPlaces sizes).prod ∧
      (pairTiers float sizes).height = .ok (evenPlaces sizes).prod ∧
      (pairTiers float sizes).drawType = .ok ps ∧
      rectangles ps = (indices sizes).map (square sizes) := by
  induction sizes using inPairs.induct with
  | case1 => exact ⟨_, rfl, rfl, rfl, rfl⟩
  | case2 n =>
    refine ⟨_, ?_, rfl, drawType_linear n rfl rfl rfl, ?_⟩
    · rw [pairTiers, width_linear n rfl]
      rfl
    · rw [rectangles_append, rectangles_copiesAcross, rectangles_box, List.append_nil, copiesAcross,
        indices, List.map_flatMap]
      congr 1
      funext i
      exact congrArg (fun p => [p]) (square_singleton n i).symm
  | case3 n m rest ih =>
    obtain ⟨ps, width, height, drawn, squares⟩ := ih
    refine ⟨_, width_grid n m width, height_grid n m height, drawType_grid n m width height drawn,
      ?_⟩
    rw [rectangles_append, rectangles_copiesInGrid, rectangles_box, List.append_nil, squares,
      copiesInGrid, indices, List.map_flatMap]
    -- Both sides run through the columns, and in each column through its rows.
    congr 1
    funext i
    rw [indices, List.map_flatMap, List.map_flatMap]
    congr 1
    funext j
    rw [List.map_map, List.map_map, shiftAll, List.map_map]
    apply List.map_congr_left
    intro index _
    exact (square_cons_cons n m i j rest index).symm

end Node

theorem length_indices (sizes : List Int) :
    (indices sizes).length = (sizes.map Int.toNat).prod := by
  induction sizes with
  | nil => rfl
  | cons n sizes ih =>
    simp [indices, List.length_flatMap, List.map_const', ih]

/-- In a list made of blocks of one length, the place of an item is its place in its block after all
the blocks before. -/
theorem getElem?_flatMap_range {α : Type} {f : Nat → List α} {len : Nat}
    (blocks : ∀ k, (f k).length = len) {n i r : Nat} (inside : i < n) (small : r < len) :
    ((List.range n).flatMap f)[i * len + r]? = (f i)[r]? := by
  induction n with
  | zero => omega
  | succ n ih =>
    have before : ((List.range n).flatMap f).length = n * len := by
      simp [List.length_flatMap, blocks, List.map_const']
    rw [List.range_succ, List.flatMap_append, List.flatMap_singleton]
    by_cases earlier : i < n
    · have step : i * len + len ≤ n * len := by
        rw [← Nat.succ_mul]
        exact Nat.mul_le_mul_right len earlier
      rw [List.getElem?_append_left (by omega), ih earlier]
    · have same : i = n := by omega
      subst same
      rw [List.getElem?_append_right (by omega), before, Nat.add_sub_cancel_left]

theorem IsIndex.nonneg {sizes index : List Int} (isIndex : IsIndex sizes index) :
    ∀ n ∈ sizes, 0 ≤ n := by
  induction isIndex with
  | nil => simp
  | cons part _ ih => exact List.forall_mem_cons.mpr ⟨by omega, ih⟩

theorem IsIndex.prod_eq {sizes index : List Int} (isIndex : IsIndex sizes index) :
    sizes.prod = ((indices sizes).length : Int) := by
  rw [length_indices, natCast_prod_toNat isIndex.nonneg]

theorem rowMajor_bounds {sizes index : List Int} (isIndex : IsIndex sizes index) :
    0 ≤ rowMajor sizes index ∧ rowMajor sizes index < sizes.prod := by
  induction isIndex with
  | nil => simp [rowMajor]
  | @cons n i sizes index part rest ih =>
    have lower : 0 ≤ i * sizes.prod := Int.mul_nonneg part.1 (by omega)
    have upper : (i + 1) * sizes.prod ≤ n * sizes.prod :=
      Int.mul_le_mul_of_nonneg_right (by omega) (by omega)
    rw [Int.add_mul, Int.one_mul] at upper
    rw [rowMajor, List.prod_cons]
    omega

/-- The place of an index among all of them is its place in row-major order. -/
theorem getElem?_indices {sizes index : List Int} (isIndex : IsIndex sizes index) :
    (indices sizes)[(rowMajor sizes index).toNat]? = some index := by
  induction isIndex with
  | nil => rfl
  | @cons n i sizes index part rest ih =>
    obtain ⟨k, rfl⟩ := Int.eq_ofNat_of_zero_le part.1
    obtain ⟨lower, upper⟩ := rowMajor_bounds rest
    obtain ⟨r, place⟩ := Int.eq_ofNat_of_zero_le lower
    rw [place, IsIndex.prod_eq rest] at upper
    rw [place, Int.toNat_natCast] at ih
    have whole : (rowMajor (n :: sizes) (k :: index)).toNat = k * (indices sizes).length + r := by
      rw [rowMajor, place, IsIndex.prod_eq rest, ← Int.natCast_mul, ← Int.natCast_add,
        Int.toNat_natCast]
    rw [whole, indices, getElem?_flatMap_range (fun _ => List.length_map _) (by omega) (by omega),
      List.getElem?_map, ih]
    rfl

theorem mixed_lt_iff {p i j r s : Int} (r_bounds : 0 ≤ r ∧ r < p) (s_bounds : 0 ≤ s ∧ s < p) :
    i * p + r < j * p + s ↔ i < j ∨ i = j ∧ r < s := by
  rcases Int.lt_trichotomy i j with less | rfl | more
  · have step : (i + 1) * p ≤ j * p := Int.mul_le_mul_of_nonneg_right less (by omega)
    rw [Int.add_mul, Int.one_mul] at step
    omega
  · omega
  · have step : (j + 1) * p ≤ i * p := Int.mul_le_mul_of_nonneg_right more (by omega)
    rw [Int.add_mul, Int.one_mul] at step
    omega

/-- Row-major order is lexicographic order. -/
theorem lt_iff_rowMajor_lt {sizes index index' : List Int} (isIndex : IsIndex sizes index)
    (isIndex' : IsIndex sizes index') :
    index < index' ↔ rowMajor sizes index < rowMajor sizes index' := by
  induction isIndex generalizing index' with
  | nil =>
    cases isIndex'
    simp [rowMajor]
  | cons part rest ih =>
    cases isIndex' with
    | cons part' rest' =>
      rw [List.cons_lt_cons_iff, rowMajor, rowMajor,
        mixed_lt_iff (rowMajor_bounds rest) (rowMajor_bounds rest'), ih rest']

/-- The address law. The scene of nested arrays of numbers under the default rule is as wide as the
product of the sizes at odd places and as high as that of the sizes at even places. It has a unit
square for each element, and the square whose rank is the row-major rank of an index lies where the
odd parts of the index lead across and its even parts lead down. -/
theorem render_nested_addresses (name : String) {sizes : List Int}
    (positive : ∀ n ∈ sizes, 1 ≤ n) :
    ∃ scene, Scene.render pairwise ⟨name, .type (.nested sizes)⟩ = .ok scene ∧
      scene.width = (oddPlaces sizes).prod ∧ scene.height = (evenPlaces sizes).prod ∧
      ((rectangles scene.primitives).length : Int) = sizes.prod ∧
      ∀ index, IsIndex sizes index →
        (∀ index', IsIndex sizes index' →
          (index < index' ↔ rowMajor sizes index < rowMajor sizes index')) ∧
        0 ≤ rowMajor sizes index ∧ rowMajor sizes index < sizes.prod ∧
        (rectangles scene.primitives)[(rowMajor sizes index).toNat]? =
          some (.area .rectangle (rowMajor (oddPlaces sizes) (oddPlaces index))
            (rowMajor (evenPlaces sizes) (evenPlaces index)) 1 1) := by
  have built := SourceType.ofType_nested sizes
  obtain ⟨ps, width, height, drawn, squares⟩ := Node.drawn_pairTiers sizes
  refine ⟨_, Scene.render_type name built (Node.tierSizes_of_ofType built).1 width height drawn,
    rfl, rfl, ?_, ?_⟩
  · rw [squares, List.length_map, length_indices]
    exact natCast_prod_toNat fun n member => Int.le_trans (by decide) (positive n member)
  · intro index isIndex
    obtain ⟨lower, upper⟩ := rowMajor_bounds isIndex
    refine ⟨fun index' => lt_iff_rowMajor_lt isIndex, lower, upper, ?_⟩
    rw [squares, List.getElem?_map, getElem?_indices isIndex]
    rfl

/-- In five dimensions the element `(1, 0, 1, 2, 1)` lies in the second of two columns of blocks,
seven units from the left and two from the top. -/
theorem render_nested_address_five :
    (∀ n ∈ [2, 2, 2, 3, 2], (1 : Int) ≤ n) ∧ IsIndex [2, 2, 2, 3, 2] [1, 0, 1, 2, 1] ∧
      ∃ scene, Scene.render pairwise ⟨"five", .type (.nested [2, 2, 2, 3, 2])⟩ = .ok scene ∧
        scene.width = 8 ∧ scene.height = 6 ∧ (rectangles scene.primitives).length = 48 ∧
        (rectangles scene.primitives)[35]? = some (.area .rectangle 7 2 1 1) := by
  have positive : ∀ n ∈ [2, 2, 2, 3, 2], (1 : Int) ≤ n := by decide
  have isIndex : IsIndex [2, 2, 2, 3, 2] [1, 0, 1, 2, 1] := by
    simp [IsIndex]
  obtain ⟨scene, rendered, width, height, counted, placed⟩ :=
    render_nested_addresses "five" positive
  refine ⟨positive, isIndex, scene, rendered, width, height, ?_, (placed _ isIndex).2.2.2⟩
  exact Int.ofNat.inj counted

end ArrayScene

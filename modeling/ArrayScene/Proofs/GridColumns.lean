import ArrayScene.Proofs.NodeFaults

/-!
# Grids as rows of columns

The same copies are drawn by a grid and by a row of its columns. A column is a grid that is one
element wide, so in the row each column has a box of its own behind its copies; nothing else is
different, for sizes of zero and below as well. A grid of one row is drawn as a row is.
-/
namespace ArrayScene

namespace Node

theorem shiftAll_zero (ps : List Primitive) : shiftAll 0 0 ps = ps := by
  have still : Primitive.shift 0 0 = id := funext Primitive.shift_zero
  rw [shiftAll, still, List.map_id]

theorem copiesAcross_one (dx : Int) (ps : List Primitive) : copiesAcross 1 dx ps = ps := by
  simp [copiesAcross, shiftAll_zero]

theorem copiesDown_one (dy : Int) (ps : List Primitive) : copiesDown 1 dy ps = ps := by
  simp [copiesDown, shiftAll_zero]

/-- A row of columns that have a box of their own. -/
theorem copiesAcross_boxed (n m w h : Int) (ps : List Primitive) :
    copiesAcross n w (copiesDown m h ps ++ [.box w (m * h)]) =
      (List.range n.toNat).flatMap fun (i : Nat) =>
        column m (i * w) h ps ++ [.area .box (i * w) 0 w (m * h)] := by
  unfold copiesAcross
  congr 1
  funext i
  rw [← shiftAll_copiesDown]
  simp [shiftAll, Primitive.box, Primitive.shift]

section Measured

variable {e : Node} {w h : Int} {ps : List Primitive} (width : e.width = .ok w)
  (height : e.height = .ok h) (drawn : e.drawType = .ok ps)
include width height drawn

theorem drawType_column (m : Int) :
    (grid e 1 m).drawType = .ok (copiesDown m h ps ++ [.box w (m * h)]) := by
  rw [drawType_grid 1 m width height drawn, copiesInGrid_eq, copiesAcross_one, Int.one_mul]

theorem drawType_row_of_columns (n m : Int) :
    (linear (grid e 1 m) n).drawType =
      .ok (((List.range n.toNat).flatMap fun (i : Nat) =>
        column m (i * w) h ps ++ [.area .box (i * w) 0 w (m * h)]) ++ [.box (n * w) (m * h)]) := by
  have wide := width_grid 1 m width
  rw [Int.one_mul] at wide
  rw [drawType_linear n wide (height_grid 1 m height) (drawType_column width height drawn m),
    copiesAcross_boxed]

end Measured

theorem width_row_of_columns (e : Node) (n m : Int) :
    (linear (grid e 1 m) n).width = (grid e n m).width := by
  simp only [Node.width]
  cases e.width with
  | error fault => rfl
  | ok w => simp [bind, Except.bind]

theorem height_row_of_columns (e : Node) (n m : Int) :
    (linear (grid e 1 m) n).height = (grid e n m).height := rfl

/-- A grid of one row is drawn as a row, and refused as one. -/
theorem drawType_single_row (e : Node) (n : Int) :
    (grid e n 1).drawType = (linear e n).drawType := by
  simp only [drawType, copiesInGrid_eq, copiesDown_one, Int.one_mul]

/-- Around an element that is not drawn both have the same fault. -/
theorem drawType_row_of_columns_eq_error_iff {e : Node} {n m : Int} {fault : SceneFault} :
    (linear (grid e 1 m) n).drawType = .error fault ↔ (grid e n m).drawType = .error fault := by
  rw [drawType_eq_error_iff, drawType_eq_error_iff, valueFault_linear, valueFault_grid]
  rfl

end Node

/-- A grid and a row of its columns. Whatever the element and the sizes, they have the same width
and height and are refused with the same fault. If the element is drawn, so are both: the grid as
its columns, each from the top, and the box around them; the row as the same columns with a box
behind each, as wide as the element and as high as the grid. A grid of one row and a row of as many
elements have the same drawing. -/
theorem grid_agrees_with_row_of_columns (e : Node) (n m : Int) :
    (Node.linear (.grid e 1 m) n).width = (Node.grid e n m).width ∧
    (Node.linear (.grid e 1 m) n).height = (Node.grid e n m).height ∧
    (∀ fault, (Node.linear (.grid e 1 m) n).drawType = .error fault ↔
      (Node.grid e n m).drawType = .error fault) ∧
    (Node.grid e n 1).drawType = (Node.linear e n).drawType ∧
    ∀ ps, e.drawType = .ok ps → ∃ w h, e.width = .ok w ∧ e.height = .ok h ∧
      (Node.grid e n m).width = .ok (n * w) ∧ (Node.grid e n m).height = .ok (m * h) ∧
      (Node.grid e n m).drawType =
        .ok (((List.range n.toNat).flatMap fun (i : Nat) =>
          Node.column m (i * w) h ps) ++ [.box (n * w) (m * h)]) ∧
      (Node.linear (.grid e 1 m) n).drawType =
        .ok (((List.range n.toNat).flatMap fun (i : Nat) =>
          Node.column m (i * w) h ps ++ [.area .box (i * w) 0 w (m * h)]) ++
            [.box (n * w) (m * h)]) ∧
      ∃ row, (Node.grid e n 1).drawType = .ok row ∧ (Node.linear e n).drawType = .ok row := by
  refine ⟨Node.width_row_of_columns e n m, Node.height_row_of_columns e n m,
    fun _ => Node.drawType_row_of_columns_eq_error_iff, Node.drawType_single_row e n, ?_⟩
  intro ps drawn
  have number : e.core = .float := Node.drawType_ok_iff.mp ⟨ps, drawn⟩
  obtain ⟨w, h, _, width, height, _⟩ := Node.drawn_of_core number
  have row := Node.drawType_linear n width height drawn
  exact ⟨w, h, width, height, Node.width_grid n m width, Node.height_grid n m height,
    Node.drawType_grid n m width height drawn, Node.drawType_row_of_columns width height drawn n m,
    _, (Node.drawType_single_row e n).trans row, row⟩

/-- Two columns of two pairs, where the row has two boxes more; and two columns of fewer rows than
none, where the boxes are all that is drawn and reach upwards. -/
theorem grid_agrees_with_row_of_columns_pairs :
    let pair : Node := .linear .float 2
    (∃ ps, pair.drawType = .ok ps ∧ ps = [.unit, .area .rectangle 1 0 1 1, .box 2 1] ∧
      (Node.grid pair 2 2).drawType =
        .ok (ps ++ shiftAll 0 1 ps ++ (shiftAll 2 0 ps ++ shiftAll 2 1 ps) ++ [.box 4 2]) ∧
      (Node.linear (.grid pair 1 2) 2).drawType =
        .ok (ps ++ shiftAll 0 1 ps ++ [.box 2 2] ++
          (shiftAll 2 0 ps ++ shiftAll 2 1 ps ++ [.area .box 2 0 2 2]) ++ [.box 4 2])) ∧
    (Node.grid pair 2 (-1)).drawType = .ok [.box 4 (-1)] ∧
    (Node.linear (.grid pair 1 (-1)) 2).drawType =
      .ok [.box 2 (-1), .area .box 2 0 2 (-1), .box 4 (-1)] := by
  intro pair
  have drawn : pair.drawType = .ok [.unit, .area .rectangle 1 0 1 1, .box 2 1] := rfl
  obtain ⟨_, _, _, _, agrees⟩ := grid_agrees_with_row_of_columns pair 2 2
  obtain ⟨w, h, width, height, _, _, grid, row, _⟩ := agrees _ drawn
  cases Except.ok.inj width
  cases Except.ok.inj height
  obtain ⟨_, _, _, _, agrees⟩ := grid_agrees_with_row_of_columns pair 2 (-1)
  obtain ⟨w, h, width, height, _, _, upwards, apart, _⟩ := agrees _ drawn
  cases Except.ok.inj width
  cases Except.ok.inj height
  exact ⟨⟨_, drawn, rfl, grid, row⟩, upwards, apart⟩

end ArrayScene

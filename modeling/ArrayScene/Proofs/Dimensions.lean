import ArrayScene.Scene
import ArrayScene.Proofs.Copies
import ArrayScene.Proofs.Grouping

/-!
# Dimensions of a type in its scene

A split rule only chooses where the tiers begin. The node that a type becomes has the sizes of the
type in their order, whatever the rule, so its area, the count of its numbers and the count of the
rectangles drawn for it are those of the type.
-/
namespace ArrayScene

namespace Node

/-- Around a number every tier can be measured and drawn, with a rectangle for each number. -/
theorem drawn_of_core {node : Node} (number : node.core = .float) :
    ∃ w h ps, node.width = .ok w ∧ node.height = .ok h ∧ node.drawType = .ok ps ∧
      (rectangles ps).length = node.leafCount := by
  induction node with
  | float => exact ⟨1, 1, _, rfl, rfl, rfl, rfl⟩
  | linear e n ih =>
    obtain ⟨w, h, ps, width, height, drawn, counted⟩ := ih number
    refine ⟨n * w, h, _, width_linear n width, height, drawType_linear n width height drawn, ?_⟩
    rw [rectangles_append, rectangles_copiesAcross, rectangles_box, List.append_nil,
      length_copiesAcross, counted, leafCount]
  | grid e n m ih =>
    obtain ⟨w, h, ps, width, height, drawn, counted⟩ := ih number
    refine ⟨n * w, m * h, _, width_grid n m width, height_grid n m height,
      drawType_grid n m width height drawn, ?_⟩
    rw [rectangles_append, rectangles_copiesInGrid, rectangles_box, List.append_nil,
      length_copiesInGrid, counted, leafCount]
  | map i o n => cases number
  | bare c => cases number

theorem draw_of_core {node : Node} (number : node.core = .float) : node.draw = node.drawType := by
  cases node with
  | map i o n => cases number
  | bare c => cases number
  | _ => rfl

end Node

/-- The scene of a type, once its node is known with its measures and its drawing. -/
theorem Scene.render_type {rule : SplitRule} {t : SourceType} {node : Node} {w h : Int}
    {ps : List Primitive} (name : String) (built : Node.ofType rule t = .ok node)
    (number : node.core = .float) (width : node.width = .ok w) (height : node.height = .ok h)
    (drawn : node.drawType = .ok ps) :
    Scene.render rule ⟨name, .type t⟩ = .ok ⟨name, ps, w, h⟩ := by
  have root : node.draw = .ok ps := (Node.draw_of_core number).trans drawn
  simp only [Scene.render, Node.ofSubject, built, root, width, height, bind, Except.bind]

theorem SourceType.Positive.one_le {t : SourceType} (positive : t.Positive) :
    ∀ n ∈ t.sizes, 1 ≤ n := by
  induction t with
  | float => simp [SourceType.sizes]
  | array element size ih =>
    rw [SourceType.sizes, List.forall_mem_cons]
    exact ⟨positive.1, ih positive.2⟩
  | function input output => simp [SourceType.sizes]

/-- No split rule loses, doubles or moves a dimension: the tiers of the node, from the outside in,
have the sizes of the type, the node stands around a number, and its area and the count of its
numbers are the product of the sizes. So two rules under which a type becomes a node give it scenes
with equally many rectangles. -/
theorem ofType_keeps_dimensions {rule rule' : SplitRule} {t : SourceType} {node node' : Node}
    (name : String) (built : Node.ofType rule t = .ok node)
    (rebuilt : Node.ofType rule' t = .ok node') :
    node.tierSizes = t.sizes ∧ node.core = .float ∧
      (∃ w h, node.width = .ok w ∧ node.height = .ok h ∧ w * h = t.sizes.prod) ∧
      (t.Positive → (node.leafCount : Int) = t.sizes.prod) ∧
      ∃ scene scene', Scene.render rule ⟨name, .type t⟩ = .ok scene ∧
        Scene.render rule' ⟨name, .type t⟩ = .ok scene' ∧
        (rectangles scene.primitives).length = node.leafCount ∧
        (rectangles scene'.primitives).length = (rectangles scene.primitives).length := by
  obtain ⟨number, sizes⟩ := Node.tierSizes_of_ofType built
  obtain ⟨number', sizes'⟩ := Node.tierSizes_of_ofType rebuilt
  obtain ⟨w, h, ps, width, height, drawn, counted⟩ := Node.drawn_of_core number
  obtain ⟨w', h', ps', width', height', drawn', counted'⟩ := Node.drawn_of_core number'
  have area := Node.area_of_core number
  have leaves := Node.leafCount_of_core number
  have leaves' := Node.leafCount_of_core number'
  rw [sizes] at area leaves
  rw [sizes'] at leaves'
  refine ⟨sizes, number, area, ?_, _, _, Scene.render_type name built number width height drawn,
    Scene.render_type name rebuilt number' width' height' drawn', counted, ?_⟩
  · intro positive
    rw [leaves]
    exact natCast_prod_toNat fun n member => Int.le_trans (by decide) (positive.one_le n member)
  · exact (counted'.trans leaves').trans (counted.trans leaves).symm

/-- A rule that gives one dimension less than none passes the check of the sum, and still cuts three
dimensions into a grid and a row. -/
theorem negative_split_keeps_dimensions :
    let t : SourceType := .array (.array (.array .float 4) 3) 2
    Node.ofType (fun _ => [-1, 4]) t = .ok (.grid (.linear .float 4) 2 3) ∧
      Node.ofType (fun n => List.replicate n 1) t =
        .ok (.linear (.linear (.linear .float 4) 3) 2) ∧
      ∃ scene scene', Scene.render (fun _ => [-1, 4]) ⟨"cube", .type t⟩ = .ok scene ∧
        Scene.render (fun n => List.replicate n 1) ⟨"cube", .type t⟩ = .ok scene' ∧
        (rectangles scene.primitives).length = 24 ∧ (rectangles scene'.primitives).length = 24 := by
  intro t
  have built : Node.ofType (fun _ => [-1, 4]) t = .ok (.grid (.linear .float 4) 2 3) := by decide
  have rebuilt : Node.ofType (fun n => List.replicate n 1) t =
      .ok (.linear (.linear (.linear .float 4) 3) 2) := by decide
  obtain ⟨_, _, _, _, scene, scene', rendered, rendered', counted, same⟩ :=
    ofType_keeps_dimensions "cube" built rebuilt
  exact ⟨built, rebuilt, scene, scene', rendered, rendered', counted, same.trans counted⟩

end ArrayScene

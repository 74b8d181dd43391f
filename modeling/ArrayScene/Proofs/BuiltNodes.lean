import ArrayScene.Proofs.DrawnSize
import ArrayScene.Proofs.RenderFaults

/-!
# Nodes that are built

Between the building of a node, its drawing and its measuring nothing is checked. What is built from
a valid request has a shape that all of them accept, whatever the split rule: rows and grids around
a number, or a map over two such arrays, with no size below one. So a rendering fails exactly where
the building does.
-/
namespace ArrayScene

/-- The nodes of valid requests: an array without empty sides, or a map of one or more elements
between two such arrays. -/
inductive Node.IsBuilt : Node → Prop
  | value {node : Node} (array : node.IsArray 1) : IsBuilt node
  | map {i o : Node} {n : Int} (input : i.IsArray 1) (output : o.IsArray 1) (count : 1 ≤ n) :
      IsBuilt (.map i o n)

namespace Node

/-- Such a node is drawn and measured. -/
theorem IsBuilt.drawn {node : Node} (built : node.IsBuilt) :
    ∃ ps w h, node.draw = .ok ps ∧ node.width = .ok w ∧ node.height = .ok h := by
  cases built with
  | value array =>
    have number := (isArray_iff.mp array).1
    obtain ⟨w, h, ps, width, height, drawn, _⟩ := drawn_of_core number
    exact ⟨ps, w, h, (draw_of_core number).trans drawn, width, height⟩
  | map input output _ => exact drawn_map _ (isArray_iff.mp input).1 (isArray_iff.mp output).1

/-- Whatever the rule, a positive subject becomes such a node if it becomes one at all. -/
theorem isBuilt_of_ofSubject {rule : SplitRule} {s : Subject} {node : Node}
    (positive : s.Positive) (built : ofSubject rule s = .ok node) : node.IsBuilt := by
  cases s with
  | type t => exact .value (isArray_of_ofType built positive)
  | operation m =>
    obtain ⟨count, inPositive, outPositive⟩ := positive
    obtain ⟨i, input, rest⟩ := exists_of_bind_eq_ok built
    obtain ⟨o, output, last⟩ := exists_of_bind_eq_ok rest
    cases last
    exact .map (isArray_of_ofType input inPositive) (isArray_of_ofType output outPositive) count

end Node

/-- A valid request has a scene exactly if its node can be built, and otherwise fails with the fault
of the building. That is a function among the types, splits that do not add up, or a tier of other
than one or two dimensions, so nothing that measuring, drawing or aligning refuses is ever met. A
node that is built is an array without empty sides, or a map of one or more elements between two
such arrays, and it is drawn and measured. -/
theorem rendering_fails_only_in_building {r : Request} (valid : r.Valid) (rule : SplitRule) :
    ((∃ scene, Scene.render rule r = .ok scene) ↔
        ∃ node, Node.ofSubject rule r.subject = .ok node) ∧
      (∀ fault, Node.ofSubject rule r.subject = .error fault →
        Scene.render rule r = .error fault) ∧
      (∀ fault, Scene.render rule r = .error fault →
        fault = .functionType ∨ (∃ splits count, fault = .uncovered splits count) ∨
          ∃ rank, fault = .tierRank rank) ∧
      ∀ node, Node.ofSubject rule r.subject = .ok node →
        node.IsBuilt ∧
          ∃ ps w h, node.draw = .ok ps ∧ node.width = .ok w ∧ node.height = .ok h ∧
            Scene.render rule r = .ok ⟨r.name, ps, w, h⟩ := by
  have completes : ∀ node, Node.ofSubject rule r.subject = .ok node →
      node.IsBuilt ∧ ∃ ps w h, node.draw = .ok ps ∧ node.width = .ok w ∧ node.height = .ok h ∧
        Scene.render rule r = .ok ⟨r.name, ps, w, h⟩ := by
    intro node built
    have shape := Node.isBuilt_of_ofSubject valid.2 built
    obtain ⟨ps, w, h, drawn, width, height⟩ := shape.drawn
    refine ⟨shape, ps, w, h, drawn, width, height, ?_⟩
    simp only [Scene.render, built, drawn, width, height, bind, Except.bind]
  refine ⟨⟨?_, ?_⟩, fun fault => Scene.render_eq_error_iff.mpr, ?_, completes⟩
  · rintro ⟨scene, rendered⟩
    obtain ⟨node, built, _⟩ := exists_of_bind_eq_ok rendered
    exact ⟨node, built⟩
  · rintro ⟨node, built⟩
    obtain ⟨_, ps, w, h, _, _, _, rendered⟩ := completes node built
    exact ⟨_, rendered⟩
  · intro fault refused
    cases Node.ofBuilding_of_ofSubject (Scene.render_eq_error_iff.mp refused) with
    | functionType => exact .inl rfl
    | uncovered splits count => exact .inr (.inl ⟨splits, count, rfl⟩)
    | tierRank rank => exact .inr (.inr ⟨rank, rfl⟩)

/-- Three dimensions rendered in a grid and a row, refused as one tier, and refused by splits that
do not add up; and a map over them rendered. -/
theorem rendering_fails_only_in_building_cube :
    let cube : SourceType := .array (.array (.array .float 4) 3) 2
    let whole : Request := ⟨"cube", .type cube⟩
    let mapped : Request := ⟨"cubes", .operation ⟨cube, .float, 2⟩⟩
    whole.Valid ∧ mapped.Valid ∧
      (∃ scene, Scene.render pairwise whole = .ok scene) ∧
      Scene.render (fun _ => [3]) whole = .error (.tierRank 3) ∧
      Scene.render (fun _ => [2, 2]) whole = .error (.uncovered [2, 2] 3) ∧
      ∃ scene, Scene.render pairwise mapped = .ok scene := by
  intro cube whole mapped
  have positive : cube.Positive := ⟨by decide, by decide, by decide, trivial⟩
  have valid : whole.Valid := ⟨by decide, positive⟩
  have valid' : mapped.Valid := ⟨by decide, by decide, positive, trivial⟩
  refine ⟨valid, valid', ?_, ?_, ?_, ?_⟩
  · exact (rendering_fails_only_in_building valid pairwise).1.mpr ⟨_, rfl⟩
  · exact (rendering_fails_only_in_building valid fun _ => [3]).2.1 _ (by decide)
  · exact (rendering_fails_only_in_building valid fun _ => [2, 2]).2.1 _ (by decide)
  · exact (rendering_fails_only_in_building valid' pairwise).1.mpr ⟨_, rfl⟩

end ArrayScene

import ArrayScene.Sketch
import ArrayScene.Proofs.Alignment
import ArrayScene.Proofs.Dimensions
import ArrayScene.Proofs.SketchRecovery

/-!
# Faults of a rendering

A scene can be refused for its request only: while its node is built, and with a fault that the
commands note. What has been built is always drawn and measured, with primitives that all have a
place in a sketch.
-/
namespace ArrayScene

/-- Where a sequence of two steps fails, one of them does. -/
theorem error_of_bind_eq_error {ε α β : Type} {x : Except ε α} {f : α → Except ε β} {e : ε}
    (result : x >>= f = .error e) : x = .error e ∨ ∃ a, x = .ok a ∧ f a = .error e := by
  cases x with
  | error e' => exact .inl (by cases result; rfl)
  | ok a => exact .inr ⟨a, rfl, result⟩

/-- The faults that the building of a node can end in. -/
inductive SceneFault.OfBuilding : SceneFault → Prop
  | functionType : OfBuilding .functionType
  | uncovered (splits : List Int) (count : Nat) : OfBuilding (.uncovered splits count)
  | tierRank (rank : Nat) : OfBuilding (.tierRank rank)

theorem SceneFault.OfBuilding.ofRequest {fault : SceneFault} (building : fault.OfBuilding) :
    fault.ofRequest = true := by
  cases building <;> rfl

namespace Node

variable {fault : SceneFault}

/-- Around a bottom that fails in building only, so do the tiers of one group or more. -/
theorem ofBuilding_of_tiers {bottom : Except SceneFault Node} {groups : List (List Int)}
    (below : ∀ fault, bottom = .error fault → fault.OfBuilding) (given : groups ≠ [])
    (refused : tiers bottom groups = .error fault) : fault.OfBuilding := by
  cases bottom with
  | error inner =>
    rw [tiers_of_error inner given] at refused
    exact below fault refused
  | ok node =>
    rw [tiers_of_ok node given] at refused
    obtain ⟨rank, rfl⟩ := exists_of_tiered_eq_error refused
    exact .tierRank rank

theorem ofBuilding_of_ofBottom {t : SourceType} (refused : ofBottom t = .error fault) :
    fault.OfBuilding := by
  induction t with
  | float => cases refused
  | array element size ih => exact ih refused
  | function input output =>
    cases refused
    exact .functionType

/-- Splits that add up to the number of some sizes make some groups. -/
theorem groups_ne_nil {splits sizes : List Int} {groups : List (List Int)} (given : sizes ≠ [])
    (grouped : groupSizes splits sizes = .ok groups) : groups ≠ [] := by
  obtain ⟨covers, rfl⟩ := groupSizes_eq_ok_iff.mp grouped
  cases splits with
  | nil =>
    have empty : sizes.length = 0 := Int.ofNat_eq_zero.mp covers.symm
    exact absurd (List.length_eq_zero_iff.mp empty) given
  | cons split rest => exact List.cons_ne_nil _ _

theorem ofBuilding_of_ofType {rule : SplitRule} {t : SourceType}
    (refused : ofType rule t = .error fault) : fault.OfBuilding := by
  cases t with
  | float => cases refused
  | array element size =>
    rcases error_of_bind_eq_error refused with ungrouped | ⟨groups, grouped, nested⟩
    · obtain ⟨_, rfl⟩ := groupSizes_eq_error_iff.mp ungrouped
      exact .uncovered _ _
    · exact ofBuilding_of_tiers (fun _ => ofBuilding_of_ofBottom)
        (groups_ne_nil (List.cons_ne_nil _ _) grouped) nested
  | function input output =>
    cases refused
    exact .functionType

/-- Whatever the rule, a subject is refused with a fault of its building. -/
theorem ofBuilding_of_ofSubject {rule : SplitRule} {s : Subject}
    (refused : ofSubject rule s = .error fault) : fault.OfBuilding := by
  cases s with
  | type t => exact ofBuilding_of_ofType refused
  | operation m =>
    rcases error_of_bind_eq_error refused with input | ⟨i, _, rest⟩
    · exact ofBuilding_of_ofType input
    · rcases error_of_bind_eq_error rest with output | ⟨o, _, last⟩
      · exact ofBuilding_of_ofType output
      · cases last

/-- A map over two numbers with tiers around them is drawn and measured, whatever its size. -/
theorem drawn_map {i o : Node} (n : Int) (input : i.core = .float) (output : o.core = .float) :
    ∃ ps w h, (map i o n).draw = .ok ps ∧ (map i o n).width = .ok w ∧
      (map i o n).height = .ok h := by
  obtain ⟨wi, hi, _, inputWidth, inputHeight, _⟩ := drawn_of_core input
  obtain ⟨wo, ho, _, outputWidth, outputHeight, _⟩ := drawn_of_core output
  obtain ⟨_, gap, above, upperWidth, upperHeight, upper, _⟩ :=
    drawn_of_core (show (linear i n).core = .float from input)
  obtain ⟨_, _, below, lowerWidth, _, lower, _⟩ :=
    drawn_of_core (show (linear o n).core = .float from output)
  obtain ⟨alignment, aligned, _⟩ := align_pair upperWidth lowerWidth
  have drawn : ∃ ps, (map i o n).draw = .ok ps := by
    simp only [draw, drawOperation, upper, lower, upperHeight, upperWidth, lowerWidth, aligned,
      bind, Except.bind, Except.ok.injEq, exists_eq']
  obtain ⟨ps, drawn⟩ := drawn
  refine ⟨ps, max (wi + n) (wo + n), hi + mapGap + ho, drawn, ?_, ?_⟩
  · simp only [width, inputWidth, outputWidth, bind, Except.bind]
  · simp only [height, inputHeight, outputHeight, bind, Except.bind]

/-- What a subject becomes is drawn and measured. -/
theorem drawn_of_ofSubject {rule : SplitRule} {s : Subject} {node : Node}
    (built : ofSubject rule s = .ok node) :
    ∃ ps w h, node.draw = .ok ps ∧ node.width = .ok w ∧ node.height = .ok h := by
  cases s with
  | type t =>
    obtain ⟨number, _⟩ := tierSizes_of_ofType built
    obtain ⟨w, h, ps, width, height, drawn, _⟩ := drawn_of_core number
    exact ⟨ps, w, h, (draw_of_core number).trans drawn, width, height⟩
  | operation m =>
    obtain ⟨i, input, rest⟩ := exists_of_bind_eq_ok built
    obtain ⟨o, output, last⟩ := exists_of_bind_eq_ok rest
    cases last
    exact drawn_map m.size (tierSizes_of_ofType input).1 (tierSizes_of_ofType output).1

end Node

/-- A rendering fails as the building of its node does, and in no other way. -/
theorem Scene.render_eq_error_iff {rule : SplitRule} {r : Request} {fault : SceneFault} :
    Scene.render rule r = .error fault ↔ Node.ofSubject rule r.subject = .error fault := by
  cases built : Node.ofSubject rule r.subject with
  | error e => simp only [Scene.render, built, bind, Except.bind, Except.error.injEq]
  | ok node =>
    obtain ⟨ps, w, h, drawn, width, height⟩ := Node.drawn_of_ofSubject built
    simp only [Scene.render, built, drawn, width, height, bind, Except.bind, reduceCtorEq]

namespace Primitive

@[simp] theorem isSketchable_shift (dx dy : Int) (p : Primitive) :
    (p.shift dx dy).isSketchable = p.isSketchable := by
  rcases p with ⟨_ | _ | _⟩ | _ <;> rfl

end Primitive

theorem isSketchable_of_shiftAll {ps : List Primitive} (dx dy : Int)
    (sketchable : ∀ p ∈ ps, p.isSketchable = true) :
    ∀ p ∈ shiftAll dx dy ps, p.isSketchable = true := by
  intro p member
  obtain ⟨q, belongs, rfl⟩ := List.mem_map.mp member
  rw [Primitive.isSketchable_shift, sketchable q belongs]

namespace Node

theorem isSketchable_of_drawType {node : Node} {ps : List Primitive}
    (drawn : node.drawType = .ok ps) : ∀ p ∈ ps, p.isSketchable = true := by
  refine forall_mem_drawType (P := fun p => p.isSketchable = true) ?_ rfl (fun _ _ => rfl) drawn
  intro p x y sketchable
  rw [Primitive.isSketchable_shift, sketchable]

theorem isSketchable_of_drawOperation {node : Node} {ps : List Primitive}
    (drawn : node.drawOperation = .ok ps) : ∀ p ∈ ps, p.isSketchable = true := by
  cases node with
  | map i o n =>
    obtain ⟨above, upper, drawn⟩ := exists_of_bind_eq_ok drawn
    obtain ⟨below, lower, drawn⟩ := exists_of_bind_eq_ok drawn
    obtain ⟨_, _, drawn⟩ := exists_of_bind_eq_ok drawn
    obtain ⟨_, _, drawn⟩ := exists_of_bind_eq_ok drawn
    obtain ⟨_, _, drawn⟩ := exists_of_bind_eq_ok drawn
    obtain ⟨_, _, drawn⟩ := exists_of_bind_eq_ok drawn
    cases drawn
    simp only [List.forall_mem_append, List.forall_mem_singleton]
    exact ⟨⟨isSketchable_of_shiftAll _ _ (isSketchable_of_drawType upper),
      isSketchable_of_shiftAll _ _
        (isSketchable_of_shiftAll _ _ (isSketchable_of_drawType lower))⟩, rfl⟩
  | _ => cases drawn

/-- Nothing is drawn that has no place in a sketch. -/
theorem isSketchable_of_draw {node : Node} {ps : List Primitive} (drawn : node.draw = .ok ps) :
    ∀ p ∈ ps, p.isSketchable = true := by
  cases node with
  | map i o n =>
    rw [draw] at drawn
    exact isSketchable_of_drawOperation drawn
  | bare c => cases c <;> cases drawn
  | _ => exact isSketchable_of_drawType drawn

end Node

/-- Every rendered scene has a sketch. -/
theorem Sketch.ofScene_of_render {rule : SplitRule} {r : Request} {s : Scene} {unit : Int}
    (seeds : Seeds) (positive : 1 ≤ unit) (rendered : Scene.render rule r = .ok s) :
    ∃ sketch, Sketch.ofScene unit seeds s = .ok sketch := by
  obtain ⟨node, _, rendered⟩ := exists_of_bind_eq_ok rendered
  obtain ⟨ps, drawn, rendered⟩ := exists_of_bind_eq_ok rendered
  obtain ⟨_, _, rendered⟩ := exists_of_bind_eq_ok rendered
  obtain ⟨_, _, rendered⟩ := exists_of_bind_eq_ok rendered
  cases rendered
  obtain ⟨es, made⟩ := Element.ofPrimitives_of_isSketchable unit seeds r.name 0
    (Node.isSketchable_of_draw drawn)
  exact ⟨_, Sketch.ofScene_of_made positive made⟩

end ArrayScene

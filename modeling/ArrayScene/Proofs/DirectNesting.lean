import ArrayScene.Proofs.PairedTiers

/-!
# Nesting read off the type

Building a node flattens the sizes of nested arrays, groups them by the default rule and puts the
tiers around the innermost element. `Node.direct` gives the node by recursion on the type alone: an
array of arrays is a grid, an array of anything else is a row. The two are the same on every type,
so the only fault that building under the default rule can meet is a function below the arrays.
-/
namespace ArrayScene

namespace Node

/-- The node of a type by recursion on the type: two arrays at a time become a grid, and an array
left over becomes a row. -/
def direct : SourceType → Except SceneFault Node
  | .float => .ok .float
  | .function _ _ => .error .functionType
  | .array (.array element inner) outer => (direct element).map fun e => .grid e outer inner
  | .array element size => (direct element).map fun e => .linear e size

/-- The tiers of two sizes around what is below the arrays are those of the recursion. The induction
takes two arrays at a time, as the recursion does. -/
theorem direct_eq_pairTiers (t : SourceType) :
    direct t = (ofBottom t).map fun below => pairTiers below t.sizes := by
  induction t using direct.induct with
  | case1 => rfl
  | case2 => rfl
  | case3 element inner outer ih =>
    rw [direct, ih]
    simp only [ofBottom, SourceType.sizes]
    cases ofBottom element <;> rfl
  | case4 element size single ih =>
    have alone : element.sizes = [] := by
      cases element with
      | array e n => exact absurd rfl (single e n)
      | _ => rfl
    rw [direct, ih, ofBottom, SourceType.sizes, alone]
    · cases ofBottom element <;> rfl
    · exact single

theorem ofType_pairwise (t : SourceType) : ofType pairwise t = direct t := by
  cases t with
  | float => rfl
  | function input output => rfl
  | array element size =>
    rw [ofType, ofSizes_pairwise _ (List.cons_ne_nil _ _), direct_eq_pairTiers]
    rfl

/-- Below the arrays of a type is a number, or a function that cannot be drawn. -/
theorem ofBottom_eq (t : SourceType) :
    ofBottom t = if t.bottom = .float then .ok .float else .error .functionType := by
  induction t with
  | float => rfl
  | array element size ih => exact ih
  | function input output => rfl

/-- What the default rule makes of a type depends on what is below its arrays. -/
theorem ofType_pairwise_of_bottom (t : SourceType) :
    ofType pairwise t =
      if t.bottom = .float then .ok (pairTiers .float t.sizes) else .error .functionType := by
  rw [ofType_pairwise, direct_eq_pairTiers, ofBottom_eq]
  split <;> rfl

/-- So does what it makes of an operation. The fault of the output is that of the input. -/
theorem ofOperation_pairwise_of_bottom (m : MapOperation) :
    ofOperation pairwise m =
      if m.input.bottom = .float ∧ m.output.bottom = .float then
        .ok (.map (pairTiers .float m.input.sizes) (pairTiers .float m.output.sizes) m.size)
      else .error .functionType := by
  rw [ofOperation, ofType_pairwise_of_bottom, ofType_pairwise_of_bottom]
  by_cases input : m.input.bottom = .float
  case pos =>
    by_cases output : m.output.bottom = .float
    · simp only [input, output, if_true, and_self]
      rfl
    · simp only [input, output, if_true, if_false, and_false]
      rfl
  case neg =>
    simp only [input, if_false, false_and]
    rfl

/-- What becomes a node under a condition, and is a function otherwise, becomes a node exactly
under it and is refused exactly otherwise. -/
theorem outcome_iff {x : Except SceneFault Node} {sound : Prop} [Decidable sound] {node : Node}
    (result : x = if sound then .ok node else .error .functionType) :
    ((∃ built, x = .ok built) ↔ sound) ∧
      ∀ fault, x = .error fault ↔ ¬sound ∧ fault = .functionType := by
  subst result
  split
  case isTrue holds => simp [holds]
  case isFalse fails => simp [fails, eq_comm]

end Node

/-- Under the default rule the node of a type is that of the plain recursion, and the node of an
operation is the map between those of its input and its output. So a type becomes a node exactly if
a number is below its arrays, and an operation exactly if that is so of its input and its output.
All else is refused for a function: splits that do not add up, no groups, tiers of other than one or
two sizes, and sources of an unknown kind are never met. -/
theorem default_rule_nests_directly :
    (∀ t, Node.ofTypeSource pairwise (.subject (.type t)) = Node.direct t) ∧
    (∀ m, Node.ofOperationSource pairwise (.subject (.operation m)) =
      (Node.direct m.input).bind fun input =>
        (Node.direct m.output).map fun output => .map input output m.size) ∧
    (∀ t, ((∃ node, Node.ofTypeSource pairwise (.subject (.type t)) = .ok node) ↔
        t.bottom = .float) ∧
      ∀ fault, Node.ofTypeSource pairwise (.subject (.type t)) = .error fault ↔
        t.bottom ≠ .float ∧ fault = .functionType) ∧
    ∀ m, ((∃ node, Node.ofOperationSource pairwise (.subject (.operation m)) = .ok node) ↔
        m.input.bottom = .float ∧ m.output.bottom = .float) ∧
      ∀ fault, Node.ofOperationSource pairwise (.subject (.operation m)) = .error fault ↔
        ¬(m.input.bottom = .float ∧ m.output.bottom = .float) ∧ fault = .functionType := by
  refine ⟨Node.ofType_pairwise, fun m => ?_,
    fun t => Node.outcome_iff (Node.ofType_pairwise_of_bottom t),
    fun m => Node.outcome_iff (Node.ofOperation_pairwise_of_bottom m)⟩
  rw [Node.ofOperationSource, Node.ofOperation, Node.ofType_pairwise, Node.ofType_pairwise]
  cases Node.direct m.input <;> cases Node.direct m.output <;> rfl

/-- Five dimensions: two grids, and the size left over in a row innermost. -/
example : Node.ofTypeSource pairwise (.subject (.type
      (.array (.array (.array (.array (.array .float 6) 5) 4) 3) 2))) =
    .ok (.grid (.grid (.linear .float 6) 4 5) 2 3) := by decide

end ArrayScene

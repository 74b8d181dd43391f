import ArrayScene.Drawing
import ArrayScene.Proofs.RenderFaults

/-!
# Faults of nodes

Which nodes cannot be measured or drawn, and with what fault. A node is measured unless a bare node
is within it, and then the leftmost one is reported. To be drawn as a value a node has to be a
number with tiers around it. What else is below the tiers is met twice: every tier measures its
element before it draws it, so a bare node below a tier is reported as one that has no size, and
only what can be measured is reported as one that is no value. No size matters for any of this.
-/
namespace ArrayScene

namespace Node

/-- A node within another one: that node itself, or a node within its element, its input or its
output. -/
inductive Within (part : Node) : Node → Prop
  | here : Within part part
  | linear {e : Node} {n : Int} (below : Within part e) : Within part (.linear e n)
  | grid {e : Node} {n m : Int} (below : Within part e) : Within part (.grid e n m)
  | input {i o : Node} {n : Int} (below : Within part i) : Within part (.map i o n)
  | output {i o : Node} {n : Int} (below : Within part o) : Within part (.map i o n)

theorem within_of_leftmostBare? {node : Node} {c : NodeClass}
    (found : node.leftmostBare? = some c) : (bare c).Within node := by
  induction node with
  | float => cases found
  | linear e n ih => exact .linear (ih found)
  | grid e n m ih => exact .grid (ih found)
  | map i o n ihInput ihOutput =>
    rw [leftmostBare?, Option.or_eq_some_iff] at found
    rcases found with left | ⟨_, right⟩
    · exact .input (ihInput left)
    · exact .output (ihOutput right)
  | bare other =>
    cases found
    exact .here

theorem leftmostBare?_ne_none {node : Node} {c : NodeClass} (within : (bare c).Within node) :
    node.leftmostBare? ≠ none := by
  induction within with
  | here => exact Option.some_ne_none c
  | linear _ ih => exact ih
  | grid _ ih => exact ih
  | input _ ih =>
    rw [leftmostBare?, ne_eq, Option.or_eq_none_iff, not_and_or]
    exact .inl ih
  | output _ ih =>
    rw [leftmostBare?, ne_eq, Option.or_eq_none_iff, not_and_or]
    exact .inr ih

theorem leftmostBare?_eq_none_iff {node : Node} :
    node.leftmostBare? = none ↔ ∀ c, ¬(bare c).Within node := by
  constructor
  · exact fun none c within => leftmostBare?_ne_none within none
  · intro free
    cases found : node.leftmostBare? with
    | none => rfl
    | some c => exact absurd (within_of_leftmostBare? found) (free c)

/-! ### Measuring -/

/-- A measure of nodes that comes from the measures of their parts, those of a map from the left to
the right. -/
structure FollowsParts (measure : Node → Except SceneFault Int) : Prop where
  float : ∃ v, measure .float = .ok v
  linear (e : Node) (n : Int) : ∃ f : Int → Int, measure (.linear e n) = (measure e).map f
  grid (e : Node) (n m : Int) : ∃ f : Int → Int, measure (.grid e n m) = (measure e).map f
  map (i o : Node) (n : Int) :
    ∃ f : Int → Int → Int,
      measure (.map i o n) = (measure i).bind fun v => (measure o).map (f v)
  bare (c : NodeClass) : measure (.bare c) = .error (.unknownNode (.bare c))

theorem followsParts_width : FollowsParts width where
  float := ⟨1, rfl⟩
  linear e n := ⟨(· * n), by rw [width]; cases e.width <;> rfl⟩
  grid e n m := ⟨(· * n), by rw [width]; cases e.width <;> rfl⟩
  map i o n := ⟨fun v w => max (v + n) (w + n), by
    rw [width]
    cases i.width <;> cases o.width <;> rfl⟩
  bare c := rfl

theorem followsParts_height : FollowsParts height where
  float := ⟨1, rfl⟩
  linear e n := ⟨id, by rw [height]; cases e.height <;> rfl⟩
  grid e n m := ⟨(· * m), by rw [height]; cases e.height <;> rfl⟩
  map i o n := ⟨fun v w => v + mapGap + w, by
    rw [height]
    cases i.height <;> cases o.height <;> rfl⟩
  bare c := rfl

namespace FollowsParts

variable {measure : Node → Except SceneFault Int} (follows : FollowsParts measure)
include follows

theorem ok_of_none {node : Node} (none : node.leftmostBare? = none) :
    ∃ v, measure node = .ok v := by
  induction node with
  | float => exact follows.float
  | linear e n ih =>
    obtain ⟨f, parts⟩ := follows.linear e n
    obtain ⟨v, element⟩ := ih none
    exact ⟨f v, by rw [parts, element]; rfl⟩
  | grid e n m ih =>
    obtain ⟨f, parts⟩ := follows.grid e n m
    obtain ⟨v, element⟩ := ih none
    exact ⟨f v, by rw [parts, element]; rfl⟩
  | map i o n ihInput ihOutput =>
    rw [leftmostBare?, Option.or_eq_none_iff] at none
    obtain ⟨f, parts⟩ := follows.map i o n
    obtain ⟨v, input⟩ := ihInput none.1
    obtain ⟨w, output⟩ := ihOutput none.2
    exact ⟨f v w, by rw [parts, input, output]; rfl⟩
  | bare c => cases none

/-- The first bare part from the left is the one that is reported: a part before it has none, so it
is measured. -/
theorem error_of_some {node : Node} {c : NodeClass} (found : node.leftmostBare? = some c) :
    measure node = .error (.unknownNode (.bare c)) := by
  induction node with
  | float => cases found
  | linear e n ih =>
    obtain ⟨f, parts⟩ := follows.linear e n
    rw [parts, ih found]
    rfl
  | grid e n m ih =>
    obtain ⟨f, parts⟩ := follows.grid e n m
    rw [parts, ih found]
    rfl
  | map i o n ihInput ihOutput =>
    rw [leftmostBare?, Option.or_eq_some_iff] at found
    obtain ⟨f, parts⟩ := follows.map i o n
    rcases found with left | ⟨none, right⟩
    · rw [parts, ihInput left]
      rfl
    · obtain ⟨v, input⟩ := follows.ok_of_none none
      rw [parts, input, ihOutput right]
      rfl
  | bare other =>
    cases found
    exact follows.bare c

theorem eq_error_iff {node : Node} {fault : SceneFault} :
    measure node = .error fault ↔
      ∃ c, node.leftmostBare? = some c ∧ fault = .unknownNode (.bare c) := by
  constructor
  · intro refused
    cases found : node.leftmostBare? with
    | none =>
      obtain ⟨v, measured⟩ := follows.ok_of_none found
      cases refused.symm.trans measured
    | some c =>
      rw [follows.error_of_some found, Except.error.injEq] at refused
      exact ⟨c, rfl, refused.symm⟩
  · rintro ⟨c, found, rfl⟩
    exact follows.error_of_some found

theorem ok_iff {node : Node} : (∃ v, measure node = .ok v) ↔ ∀ c, ¬(Node.bare c).Within node := by
  rw [← leftmostBare?_eq_none_iff]
  constructor
  · rintro ⟨v, measured⟩
    cases found : node.leftmostBare? with
    | none => rfl
    | some c => cases measured.symm.trans (follows.error_of_some found)
  · exact follows.ok_of_none

end FollowsParts

/-! ### Drawing -/

theorem core_cases (node : Node) :
    node.core = float ∨ (∃ i o n, node.core = map i o n) ∨ ∃ c, node.core = bare c := by
  induction node with
  | float => exact .inl rfl
  | linear e n ih => exact ih
  | grid e n m ih => exact ih
  | map i o n => exact .inr (.inl ⟨i, o, n, rfl⟩)
  | bare c => exact .inr (.inr ⟨c, rfl⟩)

theorem core_linear_ne (e : Node) (n : Int) : (linear e n).core ≠ linear e n := by
  rcases core_cases (linear e n) with core | ⟨_, _, _, core⟩ | ⟨_, core⟩ <;> rw [core] <;> nofun

theorem core_grid_ne (e : Node) (n m : Int) : (grid e n m).core ≠ grid e n m := by
  rcases core_cases (grid e n m) with core | ⟨_, _, _, core⟩ | ⟨_, core⟩ <;> rw [core] <;> nofun

theorem leftmostBare?_core (node : Node) : node.core.leftmostBare? = node.leftmostBare? := by
  induction node with
  | linear e n ih => exact ih
  | grid e n m ih => exact ih
  | _ => rfl

/-- What is wrong with a tier around a node that is neither a number nor a tier. The node is
measured before it is drawn, and what can be measured of such nodes is a map. -/
def faultAround (below : Node) : SceneFault :=
  match below.leftmostBare? with
  | some c => .unknownNode (.bare c)
  | none => .unknownTypeNode .map

/-- What is wrong with a node that is to be drawn as a value, if there is no number below its
tiers. -/
def valueFault (node : Node) : SceneFault :=
  if node.core = node then .unknownTypeNode node.kind else node.core.faultAround

theorem valueFault_linear (e : Node) (n : Int) :
    (linear e n).valueFault = e.core.faultAround := by
  rw [valueFault, if_neg (core_linear_ne e n), core]

theorem valueFault_grid (e : Node) (n m : Int) :
    (grid e n m).valueFault = e.core.faultAround := by
  rw [valueFault, if_neg (core_grid_ne e n m), core]

/-- The step from an element to a tier around it: the tier has the fault of measuring the element,
or else that of drawing it. -/
theorem around_eq_error {e : Node} (f : Int → Int → List Primitive → List Primitive)
    (other : e.core ≠ float) (refused : e.drawType = .error e.valueFault) :
    (do
      let w ← e.width
      let h ← e.height
      let ps ← e.drawType
      .ok (f w h ps)) = (.error e.core.faultAround : Except SceneFault (List Primitive)) := by
  cases found : e.leftmostBare? with
  | some c =>
    rw [followsParts_width.error_of_some found, faultAround, leftmostBare?_core, found]
    rfl
  | none =>
    obtain ⟨w, width⟩ := followsParts_width.ok_of_none found
    obtain ⟨h, height⟩ := followsParts_height.ok_of_none found
    have same : e.valueFault = e.core.faultAround := by
      unfold valueFault
      split
      · rename_i itself
        rw [itself] at other ⊢
        rw [faultAround, found]
        rcases e.core_cases with core | ⟨_, _, _, core⟩ | ⟨_, core⟩ <;> rw [itself] at core
        · exact absurd core other
        · rw [core, kind]
        · rw [core] at found
          cases found
      · rfl
    rw [width, height, refused, same]
    rfl

/-- A node with anything but a number below its tiers is not drawn. -/
theorem drawType_eq_error {node : Node} (other : node.core ≠ float) :
    node.drawType = .error node.valueFault := by
  induction node with
  | float => exact absurd rfl other
  | linear e n ih =>
    rw [valueFault_linear, drawType]
    exact around_eq_error (e := e) (fun w h ps => copiesAcross n w ps ++ [.box (n * w) h]) other
      (ih other)
  | grid e n m ih =>
    rw [valueFault_grid, drawType]
    exact around_eq_error (e := e)
      (fun w h ps => copiesInGrid n m w h ps ++ [.box (n * w) (m * h)]) other (ih other)
  | map i o n =>
    rw [valueFault, if_pos (by rfl)]
    rfl
  | bare c =>
    rw [valueFault, if_pos (by rfl)]
    rfl

theorem drawType_ok_iff {node : Node} : (∃ ps, node.drawType = .ok ps) ↔ node.core = float := by
  constructor
  · rintro ⟨ps, drawn⟩
    by_contra other
    cases drawn.symm.trans (drawType_eq_error other)
  · intro number
    obtain ⟨_, _, ps, _, _, drawn, _⟩ := drawn_of_core number
    exact ⟨ps, drawn⟩

theorem drawType_eq_error_iff {node : Node} {fault : SceneFault} :
    node.drawType = .error fault ↔ node.core ≠ float ∧ fault = node.valueFault := by
  constructor
  · intro refused
    have other : node.core ≠ float := by
      intro number
      obtain ⟨ps, drawn⟩ := drawType_ok_iff.mpr number
      cases refused.symm.trans drawn
    exact ⟨other, Except.error.inj (refused.symm.trans (drawType_eq_error other))⟩
  · rintro ⟨other, rfl⟩
    exact drawType_eq_error other

/-- A map is not drawn for the fault of its row of inputs, or else for that of its row of
outputs. -/
theorem drawOperation_eq_error_iff {i o : Node} {n : Int} {fault : SceneFault} :
    (map i o n).drawOperation = .error fault ↔
      (linear i n).drawType = .error fault ∨
        (∃ ps, (linear i n).drawType = .ok ps) ∧ (linear o n).drawType = .error fault := by
  cases input : (linear i n).drawType with
  | error fault' =>
    simp [drawOperation, input, bind, Except.bind]
  | ok above =>
    cases output : (linear o n).drawType with
    | error fault' =>
      simp [drawOperation, input, output, bind, Except.bind]
    | ok below =>
      -- A row and its element have the same core.
      have inputNumber : i.core = float := (@drawType_ok_iff (linear i n)).mp ⟨above, input⟩
      have outputNumber : o.core = float := (@drawType_ok_iff (linear o n)).mp ⟨below, output⟩
      obtain ⟨ps, _, _, drawn, _⟩ := drawn_map n inputNumber outputNumber
      rw [draw] at drawn
      simp [drawn]

theorem drawOperation_ok_iff {i o : Node} {n : Int} :
    (∃ ps, (map i o n).drawOperation = .ok ps) ↔
      (∃ ps, (linear i n).drawType = .ok ps) ∧ ∃ ps, (linear o n).drawType = .ok ps := by
  cases drawn : (map i o n).drawOperation with
  | error fault =>
    rcases drawOperation_eq_error_iff.mp drawn with input | ⟨_, output⟩
    · simp [input]
    · simp [output]
  | ok ps =>
    cases input : (linear i n).drawType with
    | error fault =>
      cases drawn.symm.trans (drawOperation_eq_error_iff.mpr (.inl input))
    | ok above =>
      cases output : (linear o n).drawType with
      | error fault =>
        cases drawn.symm.trans (drawOperation_eq_error_iff.mpr (.inr ⟨⟨above, input⟩, output⟩))
      | ok below => simp

/-! ### Sizes -/

/-- A node with every size set to zero. -/
def unsized : Node → Node
  | float => float
  | linear e _ => linear e.unsized 0
  | grid e _ _ => grid e.unsized 0 0
  | map i o _ => map i.unsized o.unsized 0
  | bare c => bare c

theorem kind_unsized (node : Node) : node.unsized.kind = node.kind := by
  cases node <;> rfl

theorem core_unsized (node : Node) : node.unsized.core = node.core.unsized := by
  induction node with
  | linear e n ih => exact ih
  | grid e n m ih => exact ih
  | _ => rfl

theorem leftmostBare?_unsized (node : Node) :
    node.unsized.leftmostBare? = node.leftmostBare? := by
  induction node with
  | linear e n ih => exact ih
  | grid e n m ih => exact ih
  | map i o n ihInput ihOutput => rw [unsized, leftmostBare?, leftmostBare?, ihInput, ihOutput]
  | _ => rfl

theorem unsized_eq_float_iff {node : Node} : node.unsized = float ↔ node = float := by
  cases node <;> simp [unsized]

theorem valueFault_unsized (node : Node) : node.unsized.valueFault = node.valueFault := by
  have itself : node.unsized.core = node.unsized ↔ node.core = node := by
    cases node with
    | linear e n => exact iff_of_false (core_linear_ne _ _) (core_linear_ne _ _)
    | grid e n m => exact iff_of_false (core_grid_ne _ _ _) (core_grid_ne _ _ _)
    | _ => exact iff_of_true rfl rfl
  have around : node.unsized.core.faultAround = node.core.faultAround := by
    rw [faultAround, core_unsized, leftmostBare?_unsized, faultAround]
  simp only [valueFault, itself, kind_unsized, around]

theorem drawType_unsized_iff {node : Node} {fault : SceneFault} :
    node.unsized.drawType = .error fault ↔ node.drawType = .error fault := by
  rw [drawType_eq_error_iff, drawType_eq_error_iff, core_unsized, ne_eq, unsized_eq_float_iff,
    valueFault_unsized]

theorem FollowsParts.unsized_iff {measure : Node → Except SceneFault Int}
    (follows : FollowsParts measure) {node : Node} {fault : SceneFault} :
    measure node.unsized = .error fault ↔ measure node = .error fault := by
  rw [follows.eq_error_iff, follows.eq_error_iff, leftmostBare?_unsized]

theorem drawOperation_unsized_iff {node : Node} {fault : SceneFault} :
    node.unsized.drawOperation = .error fault ↔ node.drawOperation = .error fault := by
  cases node with
  | map i o n =>
    have input : (∃ ps, (linear i.unsized 0).drawType = .ok ps) ↔
        ∃ ps, (linear i n).drawType = .ok ps := by
      rw [drawType_ok_iff, drawType_ok_iff, core, core, core_unsized, unsized_eq_float_iff]
    rw [unsized, drawOperation_eq_error_iff, drawOperation_eq_error_iff, input,
      ← @drawType_unsized_iff (linear i n), ← @drawType_unsized_iff (linear o n)]
    rfl
  | _ => rfl

end Node

/-- What fails of measuring and drawing, and with which fault. A node is measured unless a bare node
is within it, and its width and its height report the leftmost one. It is drawn as a value exactly
if a number is below its tiers. Any other node is refused for itself; around it every tier is
refused for what it measures first, a bare node, and only where there is none for a map that is no
value. A map is drawn if the rows of its inputs and of its outputs are, and has the fault of the
first one that is not. A node with all its sizes set to zero fails in the same way. -/
theorem measuring_and_drawing_faults :
    (∀ node : Node,
      ((∃ w, node.width = .ok w) ↔ ∀ c, ¬(Node.bare c).Within node) ∧
      ((∃ h, node.height = .ok h) ↔ ∀ c, ¬(Node.bare c).Within node) ∧
      ∀ fault,
        (node.width = .error fault ↔
          ∃ c, node.leftmostBare? = some c ∧ fault = .unknownNode (.bare c)) ∧
        (node.height = .error fault ↔
          ∃ c, node.leftmostBare? = some c ∧ fault = .unknownNode (.bare c))) ∧
    (∀ node : Node,
      ((∃ ps, node.drawType = .ok ps) ↔ node.core = .float) ∧
      ∀ fault, node.drawType = .error fault ↔ node.core ≠ .float ∧
        fault = if node.core = node then .unknownTypeNode node.kind else
          match node.core.leftmostBare? with
          | some c => .unknownNode (.bare c)
          | none => .unknownTypeNode .map) ∧
    (∀ (i o : Node) (n : Int),
      ((∃ ps, (Node.map i o n).drawOperation = .ok ps) ↔
        (∃ ps, (Node.linear i n).drawType = .ok ps) ∧
          ∃ ps, (Node.linear o n).drawType = .ok ps) ∧
      ∀ fault, (Node.map i o n).drawOperation = .error fault ↔
        (Node.linear i n).drawType = .error fault ∨
          (∃ ps, (Node.linear i n).drawType = .ok ps) ∧
            (Node.linear o n).drawType = .error fault) ∧
    (∀ (node : Node) (fault : SceneFault),
      (node.unsized.width = .error fault ↔ node.width = .error fault) ∧
      (node.unsized.height = .error fault ↔ node.height = .error fault) ∧
      (node.unsized.drawType = .error fault ↔ node.drawType = .error fault) ∧
      (node.unsized.drawOperation = .error fault ↔ node.drawOperation = .error fault)) ∧
    ∀ kind : NodeKind,
      (SceneFault.unknownNode kind).message = "Unknown scene node: " ++ kind.name ∧
      (SceneFault.unknownTypeNode kind).message = "Unknown type node: " ++ kind.name := by
  refine ⟨?measured, ?drawn, ?operation, ?sizes, fun kind => ⟨rfl, rfl⟩⟩
  case measured =>
    exact fun node => ⟨Node.followsParts_width.ok_iff, Node.followsParts_height.ok_iff,
      fun fault => ⟨Node.followsParts_width.eq_error_iff, Node.followsParts_height.eq_error_iff⟩⟩
  case drawn => exact fun node => ⟨Node.drawType_ok_iff, fun fault => Node.drawType_eq_error_iff⟩
  case operation =>
    exact fun i o n => ⟨Node.drawOperation_ok_iff, fun fault => Node.drawOperation_eq_error_iff⟩
  case sizes =>
    exact fun node fault => ⟨Node.followsParts_width.unsized_iff,
      Node.followsParts_height.unsized_iff, Node.drawType_unsized_iff,
      Node.drawOperation_unsized_iff⟩

/-- Below tiers a bare node is met before the map around it, and a map that has a size is met as no
value; the sizes are no obstacle. -/
example :
    (Node.linear (.grid (.map (.bare .operationNode) (.bare .node) 0) 2 (-1)) 0).drawType =
      .error (.unknownNode (.bare .operationNode)) ∧
    (Node.linear (.map .float .float 1) 0).drawType = .error (.unknownTypeNode .map) :=
  ⟨rfl, rfl⟩

end ArrayScene

import ArrayScene.Proofs.Alignment
import ArrayScene.Proofs.Tiling

/-!
# Layout of a map

A map is drawn as two tiled blocks, one below the other with a gap between them, and an arrow across
the gap. Both blocks are centred on the wider of them as closely as whole units allow, and the arrow
stands on that centre, so it always ends on both outer boxes.
-/
namespace ArrayScene

/-- Whether a primitive is an arrow, and not an area. -/
def Primitive.isArrow : Primitive → Bool
  | area _ _ _ _ _ => false
  | arrow _ _ _ _ => true

@[simp] theorem Primitive.isArrow_shift (dx dy : Int) (p : Primitive) :
    (p.shift dx dy).isArrow = p.isArrow := by
  cases p <;> rfl

namespace Node

/-- Values are drawn from areas alone. -/
theorem isArrow_of_drawType {node : Node} {ps : List Primitive} (drawn : node.drawType = .ok ps) :
    ∀ p ∈ ps, p.isArrow = false := by
  refine forall_mem_drawType (P := fun p => p.isArrow = false) ?_ rfl (fun _ _ => rfl) drawn
  intro p x y area
  rw [Primitive.isArrow_shift, area]

/-- The drawing of a map whose two rows are drawn: each row is moved by its shift, the second one
below the gap. -/
theorem drawOperation_map {i o : Node} {n wi hi wo ho : Int} {above below : List Primitive}
    (input : Tiled (linear i n) wi hi above) (output : Tiled (linear o n) wo ho below) :
    (map i o n).drawOperation =
      .ok (shiftAll ((max wi wo - wi) / 2) 0 above ++
        shiftAll ((max wi wo - wo) / 2) (hi + mapGap) below ++
        [.arrow (max wi wo / 2) hi (max wi wo / 2) (hi + mapGap)]) := by
  obtain ⟨alignment, aligned, inputShift, outputShift⟩ := align_pair input.width output.width
  simp only [drawOperation, input.drawn, output.drawn, input.height, input.width, output.width,
    aligned, inputShift, outputShift, shiftAll_shiftAll, Int.zero_add, Int.add_zero, bind,
    Except.bind]

end Node

/-- A span of width `w` that begins at `s` stands in the middle of a width of `most`, up to one
unit: its right margin is its left margin or one more, and the middle of the whole lies on it and is
its own middle up to half a unit. -/
structure Centred (most s w : Int) : Prop where
  begins : 0 ≤ s
  margins : most - (s + w) - s = 0 ∨ most - (s + w) - s = 1
  holds_middle : s ≤ most / 2 ∧ most / 2 ≤ s + w
  near_middle : -1 ≤ 2 * (most / 2) - (2 * s + w) ∧ 2 * (most / 2) - (2 * s + w) ≤ 1

theorem centred_half {most w : Int} (nonneg : 0 ≤ w) (fits : w ≤ most) :
    Centred most ((most - w) / 2) w where
  begins := by omega
  margins := by omega
  holds_middle := by omega
  near_middle := by omega

/-- A drawing of an array that was moved to a place: it tiles its block there, it has no arrow, and
the outer box of the array is its last primitive. -/
structure Placed (x y w h : Int) (ps : List Primitive) : Prop where
  fills : Fills x y w h ps
  areas : ∀ p ∈ ps, p.isArrow = false
  outer : ps.getLast? = some (.area .box x y w h)

theorem placed_of_tiled {e : Node} {n w h : Int} {ps : List Primitive} (x y : Int)
    (tiled : Node.Tiled (.linear e n) w h ps) : Placed x y w h (shiftAll x y ps) where
  fills := by
    have moved := tiled.fills.shift x y
    rwa [Int.zero_add, Int.zero_add] at moved
  areas := by
    intro p member
    obtain ⟨q, belongs, rfl⟩ := List.mem_map.mp member
    rw [Primitive.isArrow_shift]
    exact Node.isArrow_of_drawType tiled.drawn q belongs
  outer := by
    simp only [shiftAll, List.getLast?_map, tiled.last, Option.map_some, Primitive.shift,
      Node.frame, Int.zero_add]

/-- The layout of a map over arrays of `n` inputs of size `v` by `hi` and `n` outputs of size `u` by
`ho`. The row of inputs is placed at the top and the row of outputs `hi + 5` below it, both centred
on the wider one, no area reaches into the gap between them, and the one arrow stands on the common
centre, from the bottom edge of the upper box to the top edge of the lower one. -/
theorem map_rows_centred_on_arrow {i o : Node} {n : Int} (input : i.IsArray 0)
    (output : o.IsArray 0) (count : 0 ≤ n) :
    ∃ v hi u ho above below, i.width = .ok v ∧ i.height = .ok hi ∧ o.width = .ok u ∧
      o.height = .ok ho ∧
      let wi := n * v
      let wo := n * u
      let most := max wi wo
      let si := (most - wi) / 2
      let so := (most - wo) / 2
      (Node.map i o n).drawOperation =
          .ok (above ++ below ++ [.arrow (most / 2) hi (most / 2) (hi + 5)]) ∧
        Placed si 0 wi hi above ∧ Placed so (hi + 5) wo ho below ∧
        (∀ kind a b c d, .area kind a b c d ∈ above ++ below → b + d ≤ hi ∨ hi + 5 ≤ b) ∧
        Centred most si wi ∧ Centred most so wo := by
  obtain ⟨v, hi, ps, element⟩ := Node.tiled_of_isArray input
  obtain ⟨u, ho, qs, result⟩ := Node.tiled_of_isArray output
  have upper := element.linear count
  have lower := result.linear count
  have placed := placed_of_tiled ((max (n * v) (n * u) - n * v) / 2) 0 upper
  have placed' := placed_of_tiled ((max (n * v) (n * u) - n * u) / 2) (hi + mapGap) lower
  refine ⟨v, hi, u, ho, _, _, element.width, element.height, result.width, result.height,
    Node.drawOperation_map upper lower, placed, placed', ?_,
    centred_half upper.width_nonneg (Int.le_max_left _ _),
    centred_half lower.width_nonneg (Int.le_max_right _ _)⟩
  intro kind a b c d member
  rcases List.mem_append.mp member with inUpper | inLower
  · have within := (placed.fills.within _ inUpper).2.2.2
    rw [Int.zero_add] at within
    exact .inl within
  · exact .inr (placed'.fills.within _ inLower).2.1

/-- Rows of different parity: three inputs of width one over three outputs of width two, where the
margin of the narrow row is odd; and a map whose two rows are the same array. -/
theorem map_rows_centred_odd_margin :
    Node.float.IsArray 0 ∧ (Node.linear .float 2).IsArray 0 ∧ (0 : Int) ≤ 3 ∧
      (∃ above below,
        (Node.map .float (.linear .float 2) 3).drawOperation =
          .ok (above ++ below ++ [.arrow 3 1 3 6]) ∧
        Placed 1 0 3 1 above ∧ Placed 0 6 6 1 below) ∧
      ∃ above below,
        (Node.map (.linear .float 2) (.linear .float 2) 3).drawOperation =
          .ok (above ++ below ++ [.arrow 3 1 3 6]) ∧
        Placed 0 0 6 1 above ∧ Placed 0 6 6 1 below := by
  have pair : (Node.linear .float 2).IsArray 0 := .linear .float (by decide)
  refine ⟨.float, pair, by decide, ?_, ?_⟩
  · obtain
      ⟨v, hi, u, ho, above, below, width, height, width', height', drawn, placed, placed', _⟩ :=
      map_rows_centred_on_arrow (n := 3) .float pair (by decide)
    cases Except.ok.inj width
    cases Except.ok.inj height
    cases Except.ok.inj width'
    cases Except.ok.inj height'
    exact ⟨above, below, drawn, placed, placed'⟩
  · obtain
      ⟨v, hi, u, ho, above, below, width, height, width', height', drawn, placed, placed', _⟩ :=
      map_rows_centred_on_arrow (n := 3) pair pair (by decide)
    cases Except.ok.inj width
    cases Except.ok.inj height
    cases Except.ok.inj width'
    cases Except.ok.inj height'
    exact ⟨above, below, drawn, placed, placed'⟩

end ArrayScene

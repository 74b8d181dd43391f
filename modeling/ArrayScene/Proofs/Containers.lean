import ArrayScene.Proofs.Addresses
import ArrayScene.Proofs.DrawingOrder
import Mathlib.Algebra.BigOperators.Ring.List
import Mathlib.Data.List.Nodup

/-!
# Boxes around subarrays

Every tier of nested arrays draws one box for each way to lead into it: for each choice of the part
of an index that the tiers around it take. The boxes come in the order in which they are drawn, the
inner ones before the one around them, and each frames the squares of the elements whose index goes
on from that part.
-/
namespace ArrayScene

/-- Whether a primitive is a box, and not a rectangle, a plain area or an arrow. -/
def Primitive.isBox : Primitive → Bool
  | area .box _ _ _ _ => true
  | _ => false

@[simp] theorem Primitive.isBox_shift (dx dy : Int) (p : Primitive) :
    (p.shift dx dy).isBox = p.isBox := by
  cases p with
  | area kind => cases kind <;> rfl
  | arrow => rfl

/-- The boxes of a drawing in their order. -/
def boxes (ps : List Primitive) : List Primitive := ps.filter Primitive.isBox

theorem boxes_append (ps qs : List Primitive) : boxes (ps ++ qs) = boxes ps ++ boxes qs :=
  List.filter_append ..

theorem boxes_copiesAcross (n dx : Int) (ps : List Primitive) :
    boxes (Node.copiesAcross n dx ps) = Node.copiesAcross n dx (boxes ps) :=
  Node.filter_copiesAcross (fun p dx dy => p.isBox_shift dx dy) n dx ps

theorem boxes_copiesInGrid (n m dx dy : Int) (ps : List Primitive) :
    boxes (Node.copiesInGrid n m dx dy ps) = Node.copiesInGrid n m dx dy (boxes ps) :=
  Node.filter_copiesInGrid (fun p dx dy => p.isBox_shift dx dy) n m dx dy ps

/-- A value is drawn with rectangles and boxes alone. -/
theorem length_drawType {node : Node} {ps : List Primitive} (drawn : node.drawType = .ok ps) :
    ps.length = (boxes ps).length + (rectangles ps).length := by
  have kinds : ∀ p ∈ ps, p.isRectangle = !p.isBox := by
    refine Node.forall_mem_drawType (P := fun p => p.isRectangle = !p.isBox) ?_ rfl
      (fun _ _ => rfl) drawn
    intro p x y kind
    rw [Primitive.isRectangle_shift, Primitive.isBox_shift, kind]
  rw [boxes, rectangles, List.filter_congr kinds]
  exact List.length_eq_length_filter_add _

/-- Every first part below `n` in front of each of the given rests. -/
def eachFirst (n : Int) (rests : List (List Int)) : List (List Int) :=
  (List.range n.toNat).flatMap fun (i : Nat) => rests.map ((i : Int) :: ·)

/-- The parts of indices that lead into a tier, in the order in which the boxes of the tiers are
drawn: nothing leads into the outermost one. -/
def leads : List Int → List (List Int)
  | [] => []
  | [_] => [[]]
  | n :: m :: sizes => eachFirst n (eachFirst m (leads sizes)) ++ [[]]

theorem mem_eachFirst {n : Int} {rests : List (List Int)} {index : List Int} :
    index ∈ eachFirst n rests ↔
      ∃ i rest, (0 ≤ i ∧ i < n) ∧ rest ∈ rests ∧ index = i :: rest := by
  simp only [eachFirst, List.mem_flatMap, List.mem_range, List.mem_map]
  constructor
  · rintro ⟨k, below, rest, member, rfl⟩
    exact ⟨k, rest, by omega, member, rfl⟩
  · rintro ⟨i, rest, bounds, member, rfl⟩
    obtain ⟨k, rfl⟩ := Int.eq_ofNat_of_zero_le bounds.1
    exact ⟨k, by omega, rest, member, rfl⟩

theorem nodup_eachFirst {n : Int} {rests : List (List Int)} (once : rests.Nodup) :
    (eachFirst n rests).Nodup := by
  rw [eachFirst, List.nodup_flatMap]
  refine ⟨fun i _ => once.map (List.cons_injective), List.pairwise_lt_range.imp ?_⟩
  intro i j earlier index inFirst inSecond
  obtain ⟨rest, _, rfl⟩ := List.mem_map.mp inFirst
  obtain ⟨rest', _, same⟩ := List.mem_map.mp inSecond
  have parts := (List.cons.inj same).1
  omega

theorem length_eachFirst (n : Int) (rests : List (List Int)) :
    (eachFirst n rests).length = n.toNat * rests.length := by
  simp [eachFirst, List.length_flatMap, List.map_const']

theorem nodup_leads (sizes : List Int) : (leads sizes).Nodup := by
  induction sizes using inPairs.induct with
  | case1 => exact List.nodup_nil
  | case2 n => exact List.nodup_singleton []
  | case3 n m rest ih =>
    refine (nodup_eachFirst (nodup_eachFirst ih)).append (List.nodup_singleton []) ?_
    intro lead member last
    obtain ⟨i, rest, _, _, rfl⟩ := mem_eachFirst.mp member
    cases List.mem_singleton.mp last

theorem mem_leads_cons_cons {n m : Int} {sizes lead : List Int} :
    lead ∈ leads (n :: m :: sizes) ↔
      (∃ i j rest, (0 ≤ i ∧ i < n) ∧ (0 ≤ j ∧ j < m) ∧ rest ∈ leads sizes ∧
        lead = i :: j :: rest) ∨ lead = [] := by
  rw [leads, List.mem_append, List.mem_singleton, mem_eachFirst]
  simp only [mem_eachFirst]
  constructor
  · rintro (⟨i, _, inner, ⟨j, rest, outer, member, rfl⟩, rfl⟩ | rfl)
    · exact .inl ⟨i, j, rest, inner, outer, member, rfl⟩
    · exact .inr rfl
  · rintro (⟨i, j, rest, inner, outer, member, rfl⟩ | rfl)
    · exact .inl ⟨i, _, inner, ⟨j, rest, outer, member, rfl⟩, rfl⟩
    · exact .inr rfl

theorem take_pair (n m : Int) (sizes : List Int) (t : Nat) :
    (n :: m :: sizes).take (2 * (t + 1)) = n :: m :: sizes.take (2 * t) := rfl

/-- What leads into a tier are the indices of the tiers around it. -/
theorem mem_leads_iff {sizes lead : List Int} :
    lead ∈ leads sizes ↔
      ∃ t < (sizes.length + 1) / 2, IsIndex (sizes.take (2 * t)) lead := by
  induction sizes using inPairs.induct generalizing lead with
  | case1 => simp [leads]
  | case2 n => simp [leads, IsIndex]
  | case3 n m rest ih =>
    rw [mem_leads_cons_cons]
    constructor
    · rintro (⟨i, j, lead, inner, outer, member, rfl⟩ | rfl)
      · obtain ⟨t, within, isIndex⟩ := ih.mp member
        refine ⟨t + 1, ?_, .cons inner (.cons outer isIndex)⟩
        simp only [List.length_cons]
        omega
      · exact ⟨0, by simp, .nil⟩
    · rintro ⟨t, within, isIndex⟩
      cases t with
      | zero =>
        cases isIndex
        exact .inr rfl
      | succ t =>
        rw [take_pair] at isIndex
        obtain _ | ⟨inner, _ | ⟨outer, isIndex⟩⟩ := isIndex
        simp only [List.length_cons] at within
        exact .inl ⟨_, _, _, inner, outer, ih.mpr ⟨t, by omega, isIndex⟩, rfl⟩

/-- There are as many of them as the tiers have boxes: one for the outermost tier, and for each
further tier the product of the sizes around it. -/
theorem length_leads {sizes : List Int} (nonneg : ∀ n ∈ sizes, 0 ≤ n) :
    ((leads sizes).length : Int) =
      ((List.range ((sizes.length + 1) / 2)).map fun t => (sizes.take (2 * t)).prod).sum := by
  induction sizes using inPairs.induct with
  | case1 => rfl
  | case2 n => simp [leads]
  | case3 n m rest ih =>
    simp only [List.forall_mem_cons] at nonneg
    have tiers : ((n :: m :: rest).length + 1) / 2 = (rest.length + 1) / 2 + 1 := by
      simp only [List.length_cons]
      omega
    have inner (t : Nat) : ((n :: m :: rest).take (2 * (t + 1))).prod =
        n * m * (rest.take (2 * t)).prod := by
      rw [take_pair, List.prod_cons, List.prod_cons, Int.mul_assoc]
    rw [tiers, List.range_succ_eq_map, List.map_cons, List.map_map, List.sum_cons]
    simp only [Function.comp_def, Nat.succ_eq_add_one, inner]
    rw [List.sum_map_mul_left, ← ih nonneg.2.2, leads, List.length_append, length_eachFirst,
      length_eachFirst]
    simp only [Nat.mul_zero, List.take_zero, List.prod_nil, List.length_singleton, Int.natCast_add,
      Int.natCast_mul, Int.toNat_of_nonneg nonneg.1, Int.toNat_of_nonneg nonneg.2.1]
    ring

/-- The box of the subarray that a part of an index leads into. -/
def container (sizes lead : List Int) : Primitive :=
  .area .box (rowMajor (oddPlaces sizes) (oddPlaces lead))
    (rowMajor (evenPlaces sizes) (evenPlaces lead))
    (oddPlaces (sizes.drop lead.length)).prod (evenPlaces (sizes.drop lead.length)).prod

theorem container_nil (sizes : List Int) :
    container sizes [] = .box (oddPlaces sizes).prod (evenPlaces sizes).prod := by
  have none (ns : List Int) : rowMajor ns [] = 0 := by cases ns <;> rfl
  simp only [container, oddPlaces, evenPlaces, none, List.length_nil, List.drop_zero, Primitive.box]

theorem container_cons_cons (n m i j : Int) (sizes lead : List Int) :
    container (n :: m :: sizes) (i :: j :: lead) =
      (container sizes lead).shift (i * (oddPlaces sizes).prod) (j * (evenPlaces sizes).prod) := by
  simp only [container, oddPlaces, evenPlaces, rowMajor, Primitive.shift, List.length_cons,
    List.drop_succ_cons, Int.add_comm]

/-- Tiers of two sizes at a time draw the boxes of all subarrays. -/
theorem boxes_pairTiers (sizes : List Int) {ps : List Primitive}
    (drawn : (Node.pairTiers .float sizes).drawType = .ok ps) :
    boxes ps = (leads sizes).map (container sizes) := by
  induction sizes using inPairs.induct generalizing ps with
  | case1 =>
    cases drawn
    rfl
  | case2 n =>
    cases drawn
    have inner : boxes (Node.copiesAcross n 1 [.unit]) = [] := by
      rw [boxes_copiesAcross]
      exact List.flatMap_eq_nil_iff.mpr fun _ _ => rfl
    have outer : boxes [Primitive.box (n * 1) 1] = [container [n] []] := by
      rw [container_nil]
      rfl
    rw [boxes_append, inner, outer]
    rfl
  | case3 n m rest ih =>
    obtain ⟨qs, width, height, inner, _⟩ := Node.drawn_pairTiers rest
    rw [Node.pairTiers, Node.drawType_grid n m width height inner] at drawn
    cases drawn
    have outer : boxes [Primitive.box (n * (oddPlaces rest).prod) (m * (evenPlaces rest).prod)] =
        [container (n :: m :: rest) []] := by
      rw [container_nil]
      rfl
    rw [boxes_append, boxes_copiesInGrid, ih inner, outer, leads, List.map_append,
      List.map_singleton]
    congr 1
    -- Both sides run through the columns, and in each column through its rows.
    rw [Node.copiesInGrid, eachFirst, List.map_flatMap]
    congr 1
    funext i
    rw [eachFirst, List.map_flatMap, List.map_flatMap]
    congr 1
    funext j
    rw [shiftAll, List.map_map, List.map_map, List.map_map]
    apply List.map_congr_left
    intro lead _
    exact (container_cons_cons n m i j rest lead).symm

theorem mem_indices_iff {sizes index : List Int} :
    index ∈ indices sizes ↔ IsIndex sizes index := by
  induction sizes generalizing index with
  | nil => simp [indices, IsIndex]
  | cons n sizes ih =>
    rw [show indices (n :: sizes) = eachFirst n (indices sizes) from rfl, mem_eachFirst]
    constructor
    · rintro ⟨i, rest, part, member, rfl⟩
      exact .cons part (ih.mp member)
    · rintro (_ | ⟨part, rest⟩)
      exact ⟨_, _, part, ih.mpr rest, rfl⟩

/-- The unit squares of a drawing that covers a block are the cells of the block. -/
theorem Covers.mem_iff {x y w h : Int} {ps : List Primitive} (covers : Covers x y w h ps)
    (a b : Int) :
    .area .rectangle a b 1 1 ∈ ps ↔ (x ≤ a ∧ a < x + w) ∧ y ≤ b ∧ b < y + h := by
  rw [← List.count_pos_iff, covers a b 1 1]
  by_cases inside : (x ≤ a ∧ a < x + w) ∧ y ≤ b ∧ b < y + h
  · simp [inside]
  · simp [inside]

/-- Every cell of the block that the sizes span is the square of an element, and every square of an
element is such a cell. -/
theorem exists_square_iff {sizes : List Int} (nonneg : ∀ n ∈ sizes, 0 ≤ n) (a b : Int) :
    (∃ index, IsIndex sizes index ∧ square sizes index = .area .rectangle a b 1 1) ↔
      (Primitive.box (oddPlaces sizes).prod (evenPlaces sizes).prod).HasCell a b := by
  obtain ⟨ps, width, height, drawn, squares⟩ := Node.drawn_pairTiers sizes
  obtain ⟨number, tiers⟩ := Node.tierSizes_of_ofType (SourceType.ofType_nested sizes)
  rw [SourceType.sizes_nested] at tiers
  obtain ⟨w, h, qs, tiled⟩ :=
    Node.tiled_of_isArray (Node.isArray_iff.mpr ⟨number, tiers.symm ▸ nonneg⟩)
  cases Except.ok.inj (drawn.symm.trans tiled.drawn)
  cases Except.ok.inj (width.symm.trans tiled.width)
  cases Except.ok.inj (height.symm.trans tiled.height)
  have kept : .area .rectangle a b 1 1 ∈ ps ↔ .area .rectangle a b 1 1 ∈ rectangles ps := by
    simp [rectangles, Primitive.isRectangle]
  calc
    _ ↔ .area .rectangle a b 1 1 ∈ rectangles ps := by
      rw [squares, List.mem_map]
      simp only [mem_indices_iff]
    _ ↔ _ := kept.symm.trans (tiled.fills.covers.mem_iff a b)

theorem hasCell_container_nil_iff {sizes : List Int} (nonneg : ∀ n ∈ sizes, 0 ≤ n) (a b : Int) :
    (container sizes []).HasCell a b ↔
      ∃ index, IsIndex sizes index ∧ [] <+: index ∧
        square sizes index = .area .rectangle a b 1 1 := by
  simp only [container_nil, ← exists_square_iff nonneg, List.nil_prefix, true_and]

/-- The box that a part of an index leads into frames the elements whose index begins with it. -/
theorem hasCell_container_iff {sizes lead : List Int} (nonneg : ∀ n ∈ sizes, 0 ≤ n)
    (member : lead ∈ leads sizes) (a b : Int) :
    (container sizes lead).HasCell a b ↔
      ∃ index, IsIndex sizes index ∧ lead <+: index ∧
        square sizes index = .area .rectangle a b 1 1 := by
  induction sizes using inPairs.induct generalizing lead a b with
  | case1 => cases member
  | case2 n =>
    cases List.mem_singleton.mp member
    exact hasCell_container_nil_iff nonneg a b
  | case3 n m rest ih =>
    rcases mem_leads_cons_cons.mp member with ⟨i, j, lead, inner, outer, further, rfl⟩ | rfl
    case inr => exact hasCell_container_nil_iff nonneg a b
    simp only [List.forall_mem_cons] at nonneg
    rw [container_cons_cons, Primitive.hasCell_shift, ih nonneg.2.2 further]
    constructor
    · rintro ⟨index, isIndex, begins, placed⟩
      refine ⟨i :: j :: index, .cons inner (.cons outer isIndex), by simpa using begins, ?_⟩
      rw [square_cons_cons, placed]
      simp only [Primitive.shift, Int.sub_add_cancel]
    · rintro ⟨_, isIndex, ⟨tail, rfl⟩, placed⟩
      rw [List.cons_append, List.cons_append] at isIndex placed
      obtain _ | ⟨_, _ | ⟨_, isIndex⟩⟩ := isIndex
      rw [square_cons_cons] at placed
      refine ⟨_, isIndex, ⟨tail, rfl⟩, Primitive.shift_injective _ _ (placed.trans ?_)⟩
      simp only [Primitive.shift, Int.sub_add_cancel]

/-- The boxes of a scene. In the scene of nested arrays of numbers under the default rule there is
one box for each tier and each part of an index that leads into it, and no other. The box is as
wide and as high as the sizes that are left at odd and at even places, and its cells are the
squares of the elements whose index begins with that part. So the tiers have as many boxes as the
products of the sizes around them, and all else that is drawn are the squares, one for each
element. -/
theorem containers_frame_subarrays (name : String) {sizes : List Int}
    (positive : ∀ n ∈ sizes, 1 ≤ n) :
    ∃ scene, Scene.render pairwise ⟨name, .type (.nested sizes)⟩ = .ok scene ∧
      (leads sizes).Nodup ∧
      (∀ lead, lead ∈ leads sizes ↔
        ∃ t < (sizes.length + 1) / 2, IsIndex (sizes.take (2 * t)) lead) ∧
      boxes scene.primitives = (leads sizes).map (container sizes) ∧
      (∀ t < (sizes.length + 1) / 2, ∀ lead, IsIndex (sizes.take (2 * t)) lead →
        ∃ x y, container sizes lead = .area .box x y (oddPlaces (sizes.drop (2 * t))).prod
            (evenPlaces (sizes.drop (2 * t))).prod ∧
          ∀ a b, (container sizes lead).HasCell a b ↔
            ∃ index, IsIndex sizes index ∧ lead <+: index ∧
              (rectangles scene.primitives)[(rowMajor sizes index).toNat]? =
                some (.area .rectangle a b 1 1)) ∧
      ((boxes scene.primitives).length : Int) =
        ((List.range ((sizes.length + 1) / 2)).map fun t => (sizes.take (2 * t)).prod).sum ∧
      ((rectangles scene.primitives).length : Int) = sizes.prod ∧
      scene.primitives.length =
        (boxes scene.primitives).length + (rectangles scene.primitives).length := by
  have nonneg : ∀ n ∈ sizes, 0 ≤ n := fun n member => Int.le_trans (by decide) (positive n member)
  have built := SourceType.ofType_nested sizes
  obtain ⟨ps, width, height, drawn, squares⟩ := Node.drawn_pairTiers sizes
  have framed := boxes_pairTiers sizes drawn
  refine ⟨_, Scene.render_type name built (Node.tierSizes_of_ofType built).1 width height drawn,
    nodup_leads sizes, fun lead => mem_leads_iff, framed, ?frames, ?count, ?squares,
    length_drawType drawn⟩
  case frames =>
    intro t within lead isIndex
    have length : lead.length = 2 * t := by
      rw [← isIndex.length_eq, List.length_take]
      omega
    refine ⟨_, _, by rw [container, length], fun a b => ?_⟩
    rw [hasCell_container_iff nonneg (mem_leads_iff.mpr ⟨t, within, isIndex⟩), squares]
    refine exists_congr fun index => and_congr_right fun isIndex => and_congr_right fun _ => ?_
    rw [List.getElem?_map, getElem?_indices isIndex, Option.map_some, Option.some.injEq]
  case count =>
    rw [framed, List.length_map]
    exact length_leads nonneg
  case squares =>
    rw [squares, List.length_map, length_indices]
    exact natCast_prod_toNat nonneg

/-- Three dimensions of two, three and two: the box of the whole and six boxes of pairs, of which
the one for column one and row two frames the squares at four and five. -/
theorem containers_frame_pairs :
    (∀ n ∈ [2, 3, 2], (1 : Int) ≤ n) ∧
      ∃ scene, Scene.render pairwise ⟨"pairs", .type (.nested [2, 3, 2])⟩ = .ok scene ∧
        (boxes scene.primitives).length = 7 ∧ scene.primitives.length = 19 ∧
        .area .box 2 2 2 1 ∈ boxes scene.primitives ∧
        ∀ a b, (Primitive.area .box 2 2 2 1).HasCell a b ↔
          ∃ index, IsIndex [2, 3, 2] index ∧ [1, 2] <+: index ∧
            (rectangles scene.primitives)[(rowMajor [2, 3, 2] index).toNat]? =
              some (.area .rectangle a b 1 1) := by
  have positive : ∀ n ∈ [2, 3, 2], (1 : Int) ≤ n := by decide
  have lead : IsIndex [2, 3] [1, 2] := by simp [IsIndex]
  obtain ⟨scene, rendered, _, members, framed, frames, count, squares, total⟩ :=
    containers_frame_subarrays "pairs" positive
  obtain ⟨x, y, _, cells⟩ := frames 1 (by decide) [1, 2] lead
  have counted : (boxes scene.primitives).length = 7 := Int.ofNat.inj count
  have squared : (rectangles scene.primitives).length = 12 := Int.ofNat.inj squares
  refine ⟨positive, scene, rendered, counted, by omega, ?_, cells⟩
  rw [framed]
  exact List.mem_map.mpr ⟨[1, 2], (members _).mpr ⟨1, by decide, lead⟩, rfl⟩

end ArrayScene

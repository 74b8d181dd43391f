import ArrayScene.Proofs.Arrays
import ArrayScene.Proofs.Tiers
import Mathlib.Data.List.Basic

/-!
# Groups of sizes

What grouping does for any splits, with negative and zero ones among them. The bounds of a slice
are first turned into places of the list, and the places are what the proofs follow: where they only
go forward, each group begins where the last one ended, so joined the groups are the stretch from
the first place to the last. They do so where all groups hold something. With tiers of one or two
sizes no group can be empty, and the sizes of a node that was built are the sizes of its type in
their order.
-/
namespace ArrayScene

theorem bound_le (count : Nat) (i : Int) : bound count i ≤ count := by
  unfold bound
  split <;> omega

@[simp] theorem bound_zero (count : Nat) : bound count 0 = 0 := by
  simp [bound]

@[simp] theorem bound_length (count : Nat) : bound count count = count := by
  unfold bound
  split <;> omega

theorem length_slice {α : Type} (items : List α) (start stop : Int) :
    (slice items start stop).length = bound items.length stop - bound items.length start := by
  have inside := bound_le items.length stop
  simp only [slice, List.length_take, List.length_drop]
  omega

/-- The places of the bounds that the splits add up to only go forward. -/
def Forward (count : Nat) (offset : Int) : List Int → Prop
  | [] => True
  | split :: rest =>
    bound count offset ≤ bound count (offset + split) ∧ Forward count (offset + split) rest

/-- They do where no slice is empty. -/
theorem forward_of_full {α : Type} {items : List α} {offset : Int} {splits : List Int}
    (full : ∀ group ∈ slicesFrom items offset splits, group ≠ []) :
    Forward items.length offset splits := by
  induction splits generalizing offset with
  | nil => trivial
  | cons split rest ih =>
    rw [slicesFrom, List.forall_mem_cons] at full
    have long := List.length_pos_iff.mpr full.1
    rw [length_slice] at long
    exact ⟨by omega, ih full.2⟩

/-- Slices whose bounds only go forward begin each where the last one ended, and so make up the
stretch from the place of the first offset to the place of the last. -/
theorem flatten_slicesFrom {α : Type} {items : List α} {offset : Int} {splits : List Int}
    (forward : Forward items.length offset splits) :
    bound items.length offset ≤ bound items.length (offset + splits.sum) ∧
      (slicesFrom items offset splits).flatten =
        (items.drop (bound items.length offset)).take
          (bound items.length (offset + splits.sum) - bound items.length offset) := by
  induction splits generalizing offset with
  | nil => simp [slicesFrom]
  | cons split rest ih =>
    obtain ⟨step, onward⟩ := forward
    obtain ⟨later, joined⟩ := ih onward
    rw [List.sum_cons, ← Int.add_assoc]
    refine ⟨by omega, ?_⟩
    rw [slicesFrom, List.flatten_cons, joined, slice]
    -- The offsets may go below zero and back; their places only go forward.
    have meeting : items.drop (bound items.length (offset + split)) =
        (items.drop (bound items.length offset)).drop
          (bound items.length (offset + split) - bound items.length offset) := by
      rw [List.drop_drop]
      congr 1
      omega
    rw [meeting, ← List.take_add]
    congr 1
    omega

example : slicesFrom [2, 3, 4] 0 [-1, 4] = [[2, 3], [4]] := by decide

/-- Grouping refuses splits by their sum alone. -/
theorem groupSizes_eq (splits sizes : List Int) :
    groupSizes splits sizes =
      if splits.sum = sizes.length then .ok (slicesFrom sizes 0 splits)
      else .error (.uncovered splits sizes.length) := by
  rw [groupSizes, List.sum_eq_foldr]

theorem groupSizes_eq_ok_iff {splits sizes : List Int} {groups : List (List Int)} :
    groupSizes splits sizes = .ok groups ↔
      splits.sum = sizes.length ∧ groups = slicesFrom sizes 0 splits := by
  rw [groupSizes_eq]
  split
  next covers => simp [covers, eq_comm]
  next short => simp [short]

theorem groupSizes_eq_error_iff {splits sizes : List Int} {fault : SceneFault} :
    groupSizes splits sizes = .error fault ↔
      splits.sum ≠ sizes.length ∧ fault = .uncovered splits sizes.length := by
  rw [groupSizes_eq]
  split
  next covers => simp [covers]
  next short => simp [short, eq_comm]

/-- Splits that add up and only go forward keep every size in its place. -/
theorem flatten_slicesFrom_zero {α : Type} {items : List α} {splits : List Int}
    (covers : splits.sum = items.length) (forward : Forward items.length 0 splits) :
    (slicesFrom items 0 splits).flatten = items := by
  rw [(flatten_slicesFrom forward).2, Int.zero_add, covers]
  simp

/-- So do splits that are accepted and leave no group empty. -/
theorem flatten_groupSizes {splits sizes : List Int} {groups : List (List Int)}
    (grouped : groupSizes splits sizes = .ok groups) (full : ∀ group ∈ groups, group ≠ []) :
    groups.flatten = sizes := by
  obtain ⟨covers, rfl⟩ := groupSizes_eq_ok_iff.mp grouped
  exact flatten_slicesFrom_zero covers (forward_of_full full)

namespace Node

/-- Tiers that could be built hold the sizes of their groups in order, around what is below. -/
theorem tierSizes_of_tiers {bottom : Except SceneFault Node} {groups : List (List Int)}
    {node : Node} (built : tiers bottom groups = .ok node) :
    ∃ below, bottom = .ok below ∧ (∀ group ∈ groups, group ≠ []) ∧ node.core = below.core ∧
      node.tierSizes = groups.flatten ++ below.tierSizes := by
  obtain ⟨below, found, sound, rfl⟩ := exists_of_tiers_eq_ok built
  exact ⟨below, found, fun group member => (sound group member).ne_nil,
    tierSizes_enclosedBy below sound⟩

theorem ofBottom_eq_ok {t : SourceType} {node : Node} (built : ofBottom t = .ok node) :
    node = .float := by
  induction t with
  | float => cases built; rfl
  | array element size ih => exact ih built
  | function input output => cases built

/-- Whatever the rule, a type that becomes a node keeps its sizes, in their order, around a
number. -/
theorem tierSizes_of_ofType {rule : SplitRule} {t : SourceType} {node : Node}
    (built : ofType rule t = .ok node) : node.core = .float ∧ node.tierSizes = t.sizes := by
  cases t with
  | float => cases built; exact ⟨rfl, rfl⟩
  | array element size =>
    obtain ⟨groups, grouped, nested⟩ := exists_of_bind_eq_ok built
    obtain ⟨below, found, full, core, sizes⟩ := tierSizes_of_tiers nested
    cases ofBottom_eq_ok found
    refine ⟨core, ?_⟩
    rw [sizes, flatten_groupSizes grouped full]
    exact List.append_nil _
  | function input output => cases built

end Node

end ArrayScene

import ArrayScene.Proofs.Grouping
import Mathlib.Algebra.Order.BigOperators.Group.List

/-!
# Partitions of sizes

What splits make of a list of sizes. Splits that add up give one group each, and the groups joined
are the sizes exactly if the places of their bounds never go back: a step back takes some sizes
twice. Splits of zero or more never step back and are the lengths of their groups; other splits may,
but only past an empty group. The default rule gives twos and at most a one behind them, and so
groups of one or two sizes.
-/
namespace ArrayScene

theorem length_slicesFrom {α : Type} (items : List α) (offset : Int) (splits : List Int) :
    (slicesFrom items offset splits).length = splits.length := by
  induction splits generalizing offset with
  | nil => rfl
  | cons split rest ih => rw [slicesFrom, List.length_cons, List.length_cons, ih]

/-! ### Steps back -/

/-- The groups together are no shorter than the stretch between the first place and the last, and
longer if some bound goes back. -/
theorem bound_le_length_flatten {α : Type} (items : List α) (offset : Int) (splits : List Int) :
    bound items.length (offset + splits.sum) ≤
        bound items.length offset + (slicesFrom items offset splits).flatten.length ∧
      (bound items.length (offset + splits.sum) =
          bound items.length offset + (slicesFrom items offset splits).flatten.length →
        Forward items.length offset splits) := by
  induction splits generalizing offset with
  | nil => simp [slicesFrom, Forward]
  | cons split rest ih =>
    obtain ⟨covered, onward⟩ := ih (offset + split)
    rw [Int.add_assoc, ← List.sum_cons] at covered onward
    rw [slicesFrom, List.flatten_cons, List.length_append, length_slice]
    refine ⟨by omega, fun tight => ⟨?_, onward ?_⟩⟩ <;> omega

/-- Splits that add up keep every size in its place exactly if no bound goes back. -/
theorem flatten_slicesFrom_iff {α : Type} {items : List α} {splits : List Int}
    (covers : splits.sum = items.length) :
    (slicesFrom items 0 splits).flatten = items ↔ Forward items.length 0 splits := by
  constructor
  · intro joined
    apply (bound_le_length_flatten items 0 splits).2
    rw [joined, Int.zero_add, covers, bound_length, bound_zero, Nat.zero_add]
  · exact flatten_slicesFrom_zero covers

/-- The one step back is over the empty second group, and the size `3` is taken twice. -/
example : groupSizes [2, -1, 2] [2, 3, 4] = .ok [[2, 3], [], [3, 4]] := by decide

/-! ### Splits of zero or more -/

section NonNegative

variable {offset : Int} {splits : List Int}

theorem bound_mono (count : Nat) {i j : Int} (nonneg : 0 ≤ i) (le : i ≤ j) :
    bound count i ≤ bound count j := by
  unfold bound
  split <;> split <;> omega

theorem bound_of_le {count : Nat} {i : Int} (nonneg : 0 ≤ i) (le : i ≤ count) :
    (bound count i : Int) = i := by
  unfold bound
  split <;> omega

variable (start : 0 ≤ offset) (nonneg : ∀ split ∈ splits, 0 ≤ split)
include start nonneg

theorem forward_of_nonneg (count : Nat) : Forward count offset splits := by
  induction splits generalizing offset with
  | nil => trivial
  | cons split rest ih =>
    rw [List.forall_mem_cons] at nonneg
    exact ⟨bound_mono count start (by omega), ih (by omega) nonneg.2⟩

/-- Within a list such splits are the lengths of their slices. -/
theorem lengths_slicesFrom {α : Type} {items : List α}
    (within : offset + splits.sum ≤ items.length) :
    (slicesFrom items offset splits).map (fun group => (group.length : Int)) = splits := by
  induction splits generalizing offset with
  | nil => rfl
  | cons split rest ih =>
    rw [List.forall_mem_cons] at nonneg
    rw [List.sum_cons] at within
    have later : 0 ≤ rest.sum := List.sum_nonneg nonneg.2
    have first : (bound items.length offset : Int) = offset := bound_of_le start (by omega)
    have last : (bound items.length (offset + split) : Int) = offset + split :=
      bound_of_le (by omega) (by omega)
    rw [slicesFrom, List.map_cons, length_slice, ih (by omega) nonneg.2 (by omega)]
    congr 1
    omega

end NonNegative

/-- Splits of zero or more that add up cut the items into groups of just these lengths. -/
theorem slicesFrom_of_nonneg {α : Type} {items : List α} {splits : List Int}
    (covers : splits.sum = items.length) (nonneg : ∀ split ∈ splits, 0 ≤ split) :
    (slicesFrom items 0 splits).map (fun group => (group.length : Int)) = splits ∧
      (slicesFrom items 0 splits).flatten = items :=
  ⟨lengths_slicesFrom (Int.le_refl 0) nonneg (by omega),
    flatten_slicesFrom_zero covers (forward_of_nonneg (Int.le_refl 0) nonneg _)⟩

/-! ### The default splits -/

/-- How the default rule goes about a number of dimensions: up to two are one split, and from any
other number it takes two away and goes on with the rest. -/
inductive PairsOff : Int → List Int → Prop
  | none : PairsOff 0 []
  | one : PairsOff 1 [1]
  | two : PairsOff 2 [2]
  | more {n : Int} {splits : List Int} (other : n ≠ 0 ∧ n ≠ 1 ∧ n ≠ 2)
      (rest : PairsOff (n - 2) splits) : PairsOff n (2 :: splits)

theorem PairsOff.eq_pairwise {n : Int} {splits : List Int} (pairs : PairsOff n splits) :
    ∃ count : Nat, n = count ∧ splits = pairwise count := by
  induction pairs with
  | none => exact ⟨0, rfl, rfl⟩
  | one => exact ⟨1, rfl, rfl⟩
  | two => exact ⟨2, rfl, rfl⟩
  | more other rest ih =>
    obtain ⟨count, left, rfl⟩ := ih
    exact ⟨count + 2, by omega, rfl⟩

theorem pairsOff_pairwise (count : Nat) : PairsOff count (pairwise count) := by
  induction count using pairwise.induct with
  | case1 => exact .none
  | case2 => exact .one
  | case3 count ih =>
    rcases Nat.eq_zero_or_pos count with rfl | more
    · exact .two
    · refine .more ⟨by omega, by omega, by omega⟩ ?_
      rwa [show ((count + 2 : Nat) : Int) - 2 = count by omega]

/-- Taking two away comes to an end with the default splits, and from below zero it never does. -/
theorem pairsOff_iff {n : Int} {splits : List Int} :
    PairsOff n splits ↔ pairwise? n = some splits := by
  constructor
  · intro pairs
    obtain ⟨count, rfl, rfl⟩ := pairs.eq_pairwise
    rfl
  · intro found
    cases n with
    | ofNat count =>
      cases found
      exact pairsOff_pairwise count
    | negSucc count => cases found

/-- As many twos as there are pairs, and a one for what is left over. -/
theorem pairwise_eq (n : Nat) :
    pairwise n = List.replicate (n / 2) 2 ++ List.replicate (n % 2) 1 := by
  induction n using pairwise.induct with
  | case1 => rfl
  | case2 => rfl
  | case3 n ih =>
    have pairs : (n + 2) / 2 = n / 2 + 1 := by omega
    have last : (n + 2) % 2 = n % 2 := by omega
    rw [pairwise, ih, pairs, last, List.replicate_succ, List.cons_append]

theorem sum_pairwise (n : Nat) : (pairwise n).sum = n := by
  rw [List.sum_eq_foldr, total_pairwise]

theorem mem_pairwise {n : Nat} {split : Int} (member : split ∈ pairwise n) :
    split = 2 ∨ split = 1 := by
  rw [pairwise_eq, List.mem_append] at member
  exact member.imp List.eq_of_mem_replicate List.eq_of_mem_replicate

/-- Sizes are cut by the default splits of their number into groups of one or two. -/
theorem length_of_mem_slicesFrom_pairwise (sizes : List Int) :
    ∀ group ∈ slicesFrom sizes 0 (pairwise sizes.length), group.length = 1 ∨ group.length = 2 := by
  have nonneg : ∀ split ∈ pairwise sizes.length, 0 ≤ split := by
    intro split member
    rcases mem_pairwise member with rfl | rfl <;> decide
  have lengths := (slicesFrom_of_nonneg (sum_pairwise sizes.length) nonneg).1
  intro group member
  have split : (group.length : Int) ∈ pairwise sizes.length :=
    lengths ▸ List.mem_map.mpr ⟨group, member, rfl⟩
  have length := mem_pairwise split
  omega

/-- What splits make of sizes. They are refused exactly if they do not add up to the number of the
sizes. Else there is one group for each split, and the groups joined are the sizes exactly if the
places of their bounds never go back. So it is for splits of zero or more, which are the lengths of
their groups, and for any splits that leave no group empty. The default rule comes to an end exactly
from zero up, with twos and at most a one behind them that add up to the number it was given, and so
it is never refused and gives groups of one or two sizes. -/
theorem splits_partition_sizes :
    (∀ (splits sizes : List Int) (fault : SceneFault),
      groupSizes splits sizes = .error fault ↔
        splits.sum ≠ sizes.length ∧ fault = .uncovered splits sizes.length) ∧
    (∀ splits sizes : List Int, splits.sum = sizes.length →
      ∃ groups, groupSizes splits sizes = .ok groups ∧ groups.length = splits.length ∧
        ((∀ split ∈ splits, 0 ≤ split) →
          groups.map (fun group => (group.length : Int)) = splits ∧ groups.flatten = sizes) ∧
        ((∀ group ∈ groups, group ≠ []) → groups.flatten = sizes) ∧
        (groups.flatten = sizes ↔ Forward sizes.length 0 splits)) ∧
    (∀ (n : Int) (splits : List Int), PairsOff n splits ↔ pairwise? n = some splits) ∧
    (∀ n : Int, (∃ splits, pairwise? n = some splits) ↔ 0 ≤ n) ∧
    (∀ n : Nat, pairwise? n = some (pairwise n) ∧
      (∃ pairs last, pairwise n = List.replicate pairs 2 ++ List.replicate last 1 ∧ last ≤ 1) ∧
      (pairwise n).sum = n) ∧
    ∀ sizes : List Int, ∃ groups, groupSizes (pairwise sizes.length) sizes = .ok groups ∧
      ∀ group ∈ groups, group.length = 1 ∨ group.length = 2 := by
  refine ⟨fun _ _ _ => groupSizes_eq_error_iff, ?groups, fun _ _ => pairsOff_iff, ?ends, ?default,
    ?pairs⟩
  case groups =>
    intro splits sizes covers
    have grouped := groupSizes_eq_ok_iff.mpr ⟨covers, rfl⟩
    exact ⟨_, grouped, length_slicesFrom sizes 0 splits, slicesFrom_of_nonneg covers,
      flatten_groupSizes grouped, flatten_slicesFrom_iff covers⟩
  case ends =>
    intro n
    cases n with
    | ofNat count => simp [pairwise?]
    | negSucc count => simp [pairwise?]
  case default =>
    intro n
    exact ⟨rfl, ⟨_, _, pairwise_eq n, by omega⟩, sum_pairwise n⟩
  case pairs =>
    intro sizes
    have grouped := groupSizes_eq_ok_iff.mpr ⟨sum_pairwise sizes.length, rfl⟩
    exact ⟨_, grouped, length_of_mem_slicesFrom_pairwise sizes⟩

/-- Three sizes with an empty group between two others, cut by a split below zero that leaves no
group empty, cut by one that takes a size twice, and by splits that add up to four. -/
theorem splits_partition_three_sizes :
    (∃ groups, groupSizes [2, 0, 1] [6, 5, 4] = .ok groups ∧
      groups.map (fun group => (group.length : Int)) = [2, 0, 1] ∧ groups.flatten = [6, 5, 4]) ∧
    (∃ groups, groupSizes [-1, 4] [6, 5, 4] = .ok groups ∧ groups.length = 2 ∧
      (∀ group ∈ groups, group ≠ []) ∧ groups.flatten = [6, 5, 4]) ∧
    (∃ groups, groupSizes [2, -1, 2] [6, 5, 4] = .ok groups ∧ groups.flatten ≠ [6, 5, 4]) ∧
    groupSizes [2, 2] [6, 5, 4] = .error (.uncovered [2, 2] 3) ∧
    pairwise? 3 = some [2, 1] ∧ PairsOff 3 [2, 1] ∧ ¬∃ splits, PairsOff (-3) splits := by
  obtain ⟨refused, cut, ends, fromZero, _⟩ := splits_partition_sizes
  refine ⟨?_, ?_, ?_, (refused _ _ _).mpr ⟨by decide, rfl⟩, rfl, (ends 3 _).mpr rfl, ?_⟩
  · obtain ⟨groups, made, _, lengths, _⟩ := cut [2, 0, 1] [6, 5, 4] (by decide)
    exact ⟨groups, made, lengths (by decide)⟩
  · obtain ⟨groups, made, count, _, full, _⟩ := cut [-1, 4] [6, 5, 4] (by decide)
    have none : ∀ group ∈ groups, group ≠ [] := by
      cases made.symm.trans (show _ = .ok [[6, 5], [4]] by decide)
      decide
    exact ⟨groups, made, count, none, full none⟩
  · obtain ⟨groups, made, _, _, _, exactly⟩ := cut [2, -1, 2] [6, 5, 4] (by decide)
    refine ⟨groups, made, fun joined => ?_⟩
    exact absurd (exactly.mp joined).2.1 (by decide)
  · rintro ⟨splits, pairs⟩
    exact absurd ((fromZero _).mp ⟨splits, (ends _ _).mp pairs⟩) (by decide)

end ArrayScene

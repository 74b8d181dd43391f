import ArrayScene.Proofs.Tiers
import Mathlib.Data.List.Basic

/-!
# Tiers two sizes at a time

What the default rule makes of nested arrays. The sizes are grouped in pairs with an odd one left
over at the end, and the tiers around any element are grids of the pairs with a row of the odd size
innermost. None of the checks on the way can refuse them.
-/
namespace ArrayScene

/-- The items two at a time, and a last one alone. -/
def inPairs {α : Type} : List α → List (List α)
  | [] => []
  | [a] => [[a]]
  | a :: b :: rest => [a, b] :: inPairs rest

/-- A slice between two places within the list. -/
theorem slice_append {α : Type} (front group rest : List α) (stop : Int)
    (places : stop = front.length + group.length) :
    slice (front ++ (group ++ rest)) front.length stop = group := by
  have first : bound (front ++ (group ++ rest)).length front.length = front.length := by
    simp only [bound, List.length_append]
    split <;> omega
  have last : bound (front ++ (group ++ rest)).length stop = front.length + group.length := by
    simp only [bound, List.length_append, places]
    split <;> omega
  rw [slice, first, last, List.drop_left, Nat.add_sub_cancel_left, List.take_left]

theorem slicesFrom_pairwise {α : Type} (front rest : List α) :
    slicesFrom (front ++ rest) front.length (pairwise rest.length) = inPairs rest := by
  induction rest using inPairs.induct generalizing front with
  | case1 => rfl
  | case2 a =>
    have group := slice_append front [a] [] (front.length + 1) rfl
    rw [List.append_nil] at group
    simp only [List.length_singleton, pairwise, slicesFrom, inPairs, group]
  | case3 a b rest ih =>
    have group := slice_append front [a, b] rest (front.length + 2) rfl
    have later := ih (front ++ [a, b])
    rw [List.append_assoc, List.length_append, Int.natCast_add] at later
    simp only [List.length_cons, pairwise, slicesFrom, inPairs]
    exact congrArg₂ List.cons group later

/-- Grouping by the default rule never fails. -/
theorem groupSizes_pairwise (sizes : List Int) :
    groupSizes (pairwise sizes.length) sizes = .ok (inPairs sizes) := by
  rw [groupSizes, if_pos (total_pairwise sizes.length)]
  exact congrArg Except.ok (slicesFrom_pairwise [] sizes)

namespace Node

/-- Grids of two sizes at a time around an element, and innermost a row of the size left over. -/
def pairTiers (below : Node) : List Int → Node
  | [] => below
  | [n] => linear below n
  | n :: m :: rest => grid (pairTiers below rest) n m

/-- None of the pairs and no size left over can be refused. -/
theorem tiered_inPairs (below : Node) (sizes : List Int) :
    below.tiered (inPairs sizes) = .ok (pairTiers below sizes) := by
  induction sizes using inPairs.induct with
  | case1 => rfl
  | case2 n => rfl
  | case3 n m rest ih =>
    rw [inPairs, ← tiered_cons, ih]
    rfl

theorem tiers_inPairs (bottom : Except SceneFault Node) {sizes : List Int} (some : sizes ≠ []) :
    tiers bottom (inPairs sizes) = bottom.map fun below => pairTiers below sizes := by
  have given : inPairs sizes ≠ [] := by
    unfold inPairs
    split
    · contradiction
    · exact List.cons_ne_nil _ _
    · exact List.cons_ne_nil _ _
  cases bottom with
  | error fault => exact tiers_of_error fault given
  | ok below => rw [tiers_of_ok below given, tiered_inPairs, Except.map]

/-- Under the default rule a type is the node of its bottom within tiers of two sizes. -/
theorem ofSizes_pairwise (bottom : Except SceneFault Node) {sizes : List Int} (some : sizes ≠ []) :
    ofSizes pairwise bottom sizes = bottom.map fun below => pairTiers below sizes := by
  simp only [ofSizes, groupSizes_pairwise, bind, Except.bind]
  exact tiers_inPairs bottom some

end Node

end ArrayScene

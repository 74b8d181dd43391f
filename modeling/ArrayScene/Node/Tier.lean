import ArrayScene.Node.Fault

/-!
# Tiers of array dimensions

The sizes of nested arrays are grouped into tiers, each of which becomes a row or a grid. A split
rule says for a number of dimensions how many of them each tier takes; the default rule takes two
at a time and a last one alone.

`slice` cuts a stretch out of a list between two bounds that may be any integers: a negative bound
counts from the end, and a bound outside the list stands for the nearer end.
-/
namespace ArrayScene

/-- How many dimensions each tier takes, for a number of dimensions. -/
abbrev SplitRule := Nat → List Int

/-- Two dimensions at a time, and a last one alone. -/
def pairwise : SplitRule
  | 0 => []
  | 1 => [1]
  | n + 2 => 2 :: pairwise n

/-- The default splits of any integer; a negative one has none. -/
def pairwise? (n : Int) : Option (List Int) :=
  match n with
  | .ofNat n => some (pairwise n)
  | .negSucc _ => none

/-- Where a bound lies in a list of `count` items. -/
def bound (count : Nat) (i : Int) : Nat :=
  if i < 0 then (i + count).toNat else min i.toNat count

/-- The items from one bound up to another. -/
def slice {α : Type} (items : List α) (start stop : Int) : List α :=
  let first := bound items.length start
  (items.drop first).take (bound items.length stop - first)

/-- The slices of the given lengths, each beginning where the last one was to end. -/
def slicesFrom {α : Type} (items : List α) (offset : Int) : List Int → List (List α)
  | [] => []
  | split :: rest => slice items offset (offset + split) :: slicesFrom items (offset + split) rest

/-- The sizes grouped into tiers. Only the sum of the splits is looked at. -/
def groupSizes (splits sizes : List Int) : Except SceneFault (List (List Int)) :=
  if splits.foldr (· + ·) 0 = (sizes.length : Int) then .ok (slicesFrom sizes 0 splits)
  else .error (.uncovered splits sizes.length)

theorem total_pairwise (n : Nat) : (pairwise n).foldr (· + ·) 0 = (n : Int) := by
  induction n using pairwise.induct with
  | case1 => rfl
  | case2 => rfl
  | case3 n ih =>
    rw [pairwise, List.foldr_cons, ih]
    omega

end ArrayScene

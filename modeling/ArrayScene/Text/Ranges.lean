/-!
# Ranges of characters

A class of characters given as a table of ranges, each by its first and its last code point.
-/
namespace ArrayScene.Text

/-- Whether a character lies in one of the ranges. -/
def inRanges (ranges : List (Nat × Nat)) (c : Char) : Bool :=
  ranges.any fun (first, last) => first ≤ c.toNat && c.toNat ≤ last

end ArrayScene.Text

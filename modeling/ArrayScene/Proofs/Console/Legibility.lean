import ArrayScene.Proofs.Console.Labels
import ArrayScene.Proofs.NodeFaults

/-!
# Legible nodes

An integer has a printed text unless it has more digits than `digitLimit`. So a node has a label if
its own sizes and its extent are short enough, and an outline if this is so of every node within it.
Otherwise what is reported is the number of digits, wherever in the node they are.
-/
namespace ArrayScene

namespace Decimal

/-- The integers that can be printed are those below a power of ten. -/
theorem digitCount_le_digitLimit_iff {n : Int} :
    digitCount n ≤ digitLimit ↔ n.natAbs < 10 ^ digitLimit :=
  Nat.length_toDigits_le_iff (by decide) (by decide)

/-- A power of ten has one digit more than zeros. -/
theorem digitCount_ten_pow_le_iff {k : Nat} :
    digitCount (10 ^ k) ≤ digitLimit ↔ k < digitLimit := by
  have base : Int.natAbs 10 = 10 := rfl
  rw [digitCount_le_digitLimit_iff, Int.natAbs_pow, base, Nat.pow_lt_pow_iff_right (by decide)]

end Decimal

namespace Node

variable {n : Node}

/-- The numbers in the label of a node: its own sizes and its extent. -/
inductive InLabel (n : Node) : Int → Prop
  | size {k : Int} (own : k ∈ n.ownSizes) : InLabel n k
  | width {w : Int} (measured : n.width = .ok w) : InLabel n w
  | height {h : Int} (measured : n.height = .ok h) : InLabel n h

/-- No number in the label of a node has too many digits. -/
def Brief (n : Node) : Prop := ∀ k, n.InLabel k → Decimal.digitCount k ≤ Decimal.digitLimit

/-- No number in the label of a node, or in that of a node within it, has too many digits. -/
def Legible (n : Node) : Prop := ∀ part : Node, part.Within n → part.Brief

theorem legible_linear_iff {e : Node} {k : Int} :
    (linear e k).Legible ↔ (linear e k).Brief ∧ e.Legible := by
  constructor
  · exact fun legible => ⟨legible _ .here, fun part within => legible part (.linear within)⟩
  · rintro ⟨own, below⟩ part within
    cases within with
    | here => exact own
    | linear within => exact below part within

theorem legible_grid_iff {e : Node} {k l : Int} :
    (grid e k l).Legible ↔ (grid e k l).Brief ∧ e.Legible := by
  constructor
  · exact fun legible => ⟨legible _ .here, fun part within => legible part (.grid within)⟩
  · rintro ⟨own, below⟩ part within
    cases within with
    | here => exact own
    | grid within => exact below part within

theorem legible_map_iff {i o : Node} {k : Int} :
    (map i o k).Legible ↔ (map i o k).Brief ∧ i.Legible ∧ o.Legible := by
  constructor
  · exact fun legible => ⟨legible _ .here, fun part within => legible part (.input within),
      fun part within => legible part (.output within)⟩
  · rintro ⟨own, input, output⟩ part within
    cases within with
    | here => exact own
    | input within => exact input part within
    | output within => exact output part within

theorem legible_float_iff : float.Legible ↔ float.Brief := by
  constructor
  · exact fun legible => legible _ .here
  · intro own part within
    cases within with
    | here => exact own

theorem brief_iff {w h : Int} (width : n.width = .ok w) (height : n.height = .ok h) :
    n.Brief ↔ (∀ k ∈ n.ownSizes, Decimal.digitCount k ≤ Decimal.digitLimit) ∧
      Decimal.digitCount w ≤ Decimal.digitLimit ∧ Decimal.digitCount h ≤ Decimal.digitLimit := by
  constructor
  · intro brief
    exact ⟨fun k own => brief k (.size own), brief w (.width width), brief h (.height height)⟩
  · rintro ⟨sizes, wide, high⟩ k inside
    cases inside with
    | size own => exact sizes k own
    | width measured =>
      cases width.symm.trans measured
      exact wide
    | height measured =>
      cases height.symm.trans measured
      exact high

/-! ### What is printed -/

theorem printedSize_of_le {k : Int} (short : Decimal.digitCount k ≤ Decimal.digitLimit) :
    printedSize k = .ok (sizeText k) := if_pos short

theorem printedSize_of_not_le {k : Int} (long : ¬Decimal.digitCount k ≤ Decimal.digitLimit) :
    printedSize k = .error .digitLimit := if_neg long

section Extent

variable {w h : Int} (width : n.width = .ok w) (height : n.height = .ok h)
include width height

theorem extentText_of_le (wide : Decimal.digitCount w ≤ Decimal.digitLimit)
    (high : Decimal.digitCount h ≤ Decimal.digitLimit) :
    n.extentText = .ok (sizeText w ++ "x" ++ sizeText h) := by
  simp only [extentText, width, height, Except.mapError, bind, Except.bind,
    printedSize_of_le wide, printedSize_of_le high]

theorem extentText_of_not_le (long : ¬(Decimal.digitCount w ≤ Decimal.digitLimit ∧
    Decimal.digitCount h ≤ Decimal.digitLimit)) : n.extentText = .error .digitLimit := by
  by_cases wide : Decimal.digitCount w ≤ Decimal.digitLimit
  · have high : ¬Decimal.digitCount h ≤ Decimal.digitLimit := fun short => long ⟨wide, short⟩
    simp only [extentText, width, height, Except.mapError, bind, Except.bind,
      printedSize_of_le wide, printedSize_of_not_le high]
  · simp only [extentText, width, Except.mapError, bind, Except.bind,
      printedSize_of_not_le wide]

end Extent

theorem exists_extent_of_sized (sized : n.leftmostBare? = none) :
    ∃ w h, n.width = .ok w ∧ n.height = .ok h := by
  obtain ⟨w, width⟩ := followsParts_width.ok_of_none sized
  obtain ⟨h, height⟩ := followsParts_height.ok_of_none sized
  exact ⟨w, h, width, height⟩

/-- A node without bare parts has a label if its numbers can be printed. -/
theorem label_of_brief (sized : n.leftmostBare? = none) (brief : n.Brief) :
    ∃ text, n.label = .ok text ∧ (Shown.node n).Label text := by
  -- Printing joins the blank to the bracket before it, a label has it behind the title.
  have blank (front extent : String) : front ++ "] " ++ extent = front ++ "]" ++ " " ++ extent := by
    simp [← String.toList_inj]
  obtain ⟨w, h, width, height⟩ := exists_extent_of_sized sized
  obtain ⟨sizes, wide, high⟩ := (brief_iff width height).mp brief
  have extent := extentText_of_le width height wide high
  have labelled {title : String} (titled : n.Title title) :
      (Shown.node n).Label (title ++ " " ++ (sizeText w ++ "x" ++ sizeText h)) := by
    simpa only [String.append_assoc] using Shown.Label.node titled width height
  cases n with
  | float =>
    refine ⟨_, ?_, labelled .float⟩
    rw [label, extent]
    rfl
  | linear e k =>
    refine ⟨_, ?_, labelled (.linear e k)⟩
    have size := printedSize_of_le (sizes k (by simp [ownSizes]))
    simp only [label, extent, size, bind, Except.bind, blank]
  | grid e k l =>
    refine ⟨_, ?_, labelled (.grid e k l)⟩
    have across := printedSize_of_le (sizes k (by simp [ownSizes]))
    have down := printedSize_of_le (sizes l (by simp [ownSizes]))
    simp only [label, extent, across, down, bind, Except.bind, blank]
  | map i o k =>
    refine ⟨_, ?_, labelled (.map i o k)⟩
    have size := printedSize_of_le (sizes k (by simp [ownSizes]))
    simp only [label, extent, size, bind, Except.bind, blank]
  | bare c => cases sized

theorem label_of_not_brief (sized : n.leftmostBare? = none) (long : ¬n.Brief) :
    n.label = .error .digitLimit := by
  obtain ⟨w, h, width, height⟩ := exists_extent_of_sized sized
  rw [brief_iff width height, not_and_or] at long
  by_cases short : Decimal.digitCount w ≤ Decimal.digitLimit ∧
      Decimal.digitCount h ≤ Decimal.digitLimit
  · have extent := extentText_of_le width height short.1 short.2
    have sizes := long.resolve_right (not_not_intro short)
    cases n with
    | float => exact absurd (List.forall_mem_nil _) sizes
    | linear e k =>
      have size := printedSize_of_not_le (by simpa [ownSizes] using sizes)
      simp only [label, extent, size, bind, Except.bind]
    | grid e k l =>
      by_cases across : Decimal.digitCount k ≤ Decimal.digitLimit
      · have down := printedSize_of_not_le (k := l) (by simpa [ownSizes, across] using sizes)
        simp only [label, extent, printedSize_of_le across, down, bind, Except.bind]
      · simp only [label, extent, printedSize_of_not_le across, bind, Except.bind]
    | map i o k =>
      have size := printedSize_of_not_le (by simpa [ownSizes] using sizes)
      simp only [label, extent, size, bind, Except.bind]
    | bare c => cases sized
  · have extent := extentText_of_not_le width height short
    cases n with
    | bare c => cases sized
    | _ => simp only [label, extent, bind, Except.bind]

/-- Whatever label a node without bare parts has is made from its title and its extent. -/
theorem label_of_eq_ok {text : String} (sized : n.leftmostBare? = none)
    (labelled : n.label = .ok text) : (Shown.node n).Label text := by
  have brief : n.Brief := by
    by_contra long
    cases labelled.symm.trans (label_of_not_brief sized long)
  obtain ⟨_, same, shown⟩ := label_of_brief sized brief
  cases labelled.symm.trans same
  exact shown

/-- A legible node without bare parts has an outline. -/
theorem outline_of_legible (sized : n.leftmostBare? = none) (legible : n.Legible) :
    ∃ within, n.outline = .ok within := by
  induction n with
  | float =>
    obtain ⟨text, labelled, _⟩ := label_of_brief sized (legible _ .here)
    exact ⟨_, by rw [outline, labelled]; rfl⟩
  | linear e k ih =>
    obtain ⟨text, labelled, _⟩ := label_of_brief sized (legible _ .here)
    obtain ⟨within, listed⟩ := ih sized (legible_linear_iff.mp legible).2
    exact ⟨_, by rw [outline, labelled, listed]; rfl⟩
  | grid e k l ih =>
    obtain ⟨text, labelled, _⟩ := label_of_brief sized (legible _ .here)
    obtain ⟨within, listed⟩ := ih sized (legible_grid_iff.mp legible).2
    exact ⟨_, by rw [outline, labelled, listed]; rfl⟩
  | map i o k ihInput ihOutput =>
    obtain ⟨text, labelled, _⟩ := label_of_brief sized (legible _ .here)
    obtain ⟨_, input, output⟩ := legible_map_iff.mp legible
    rw [leftmostBare?, Option.or_eq_none_iff] at sized
    obtain ⟨above, upper⟩ := ihInput sized.1 input
    obtain ⟨below, lower⟩ := ihOutput sized.2 output
    exact ⟨_, by rw [outline, labelled, upper, lower]; rfl⟩
  | bare c => cases sized

/-- One that is not legible has none, for the number of digits and nothing else. -/
theorem outline_of_not_legible (sized : n.leftmostBare? = none) (long : ¬n.Legible) :
    n.outline = .error .digitLimit := by
  induction n with
  | float =>
    rw [legible_float_iff] at long
    rw [outline, label_of_not_brief sized long]
    rfl
  | linear e k ih =>
    by_cases brief : (linear e k).Brief
    · obtain ⟨text, labelled, _⟩ := label_of_brief sized brief
      have below := ih sized fun legible => long (legible_linear_iff.mpr ⟨brief, legible⟩)
      rw [outline, labelled, below]
      rfl
    · rw [outline, label_of_not_brief sized brief]
      rfl
  | grid e k l ih =>
    by_cases brief : (grid e k l).Brief
    · obtain ⟨text, labelled, _⟩ := label_of_brief sized brief
      have below := ih sized fun legible => long (legible_grid_iff.mpr ⟨brief, legible⟩)
      rw [outline, labelled, below]
      rfl
    · rw [outline, label_of_not_brief sized brief]
      rfl
  | map i o k ihInput ihOutput =>
    by_cases brief : (map i o k).Brief
    · obtain ⟨text, labelled, _⟩ := label_of_brief sized brief
      rw [leftmostBare?, Option.or_eq_none_iff] at sized
      by_cases input : i.Legible
      · obtain ⟨above, upper⟩ := outline_of_legible sized.1 input
        have lower := ihOutput sized.2 fun output =>
          long (legible_map_iff.mpr ⟨brief, input, output⟩)
        rw [outline, labelled, upper, lower]
        rfl
      · rw [outline, labelled, ihInput sized.1 input]
        rfl
    · rw [outline, label_of_not_brief sized brief]
      rfl
  | bare c => cases sized

end Node

end ArrayScene

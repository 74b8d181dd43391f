import ArrayScene.Proofs.DirectNesting
import ArrayScene.Proofs.Grouping
import ArrayScene.Proofs.RenderFaults

/-!
# The fault that is reported

Where several things are wrong with a type, its building ends with one fault, and which one that is
follows a fixed order under every split rule. Splits that do not add up are found before anything is
built, then the bottom is built, and then the tiers from the inside out. So a bottom that cannot be
drawn hides every group that makes no tier, and of such groups the innermost one is named.
-/
namespace ArrayScene

theorem SourceType.bottom_cases (t : SourceType) :
    t.bottom = .float ∨ ∃ input output, t.bottom = .function input output := by
  induction t with
  | float => exact .inl rfl
  | array element size ih => exact ih
  | function input output => exact .inr ⟨input, output, rfl⟩

namespace Node

section Array

variable {rule : SplitRule} {t element : SourceType} {size : Int} (array : t = .array element size)
include array

/-- Splits that do not add up are reported before the bottom is looked at. -/
theorem ofType_of_uncovered (short : (rule t.sizes.length).sum ≠ t.sizes.length) :
    ofType rule t = .error (.uncovered (rule t.sizes.length) t.sizes.length) := by
  subst array
  rw [SourceType.sizes] at short ⊢
  rw [ofType, ofSizes, groupSizes_eq_error_iff.mpr ⟨short, rfl⟩]
  rfl

variable (covers : (rule t.sizes.length).sum = t.sizes.length)
include covers

/-- Splits that add up leave some groups, and their tiers are built around the bottom. -/
theorem ofType_of_covered :
    slicesFrom t.sizes 0 (rule t.sizes.length) ≠ [] ∧
      ofType rule t = tiers (ofBottom t) (slicesFrom t.sizes 0 (rule t.sizes.length)) := by
  have grouped := groupSizes_eq_ok_iff.mpr ⟨covers, rfl⟩
  subst array
  refine ⟨groups_ne_nil (List.cons_ne_nil _ _) grouped, ?_⟩
  rw [SourceType.sizes] at grouped ⊢
  rw [ofType, ofSizes, grouped]
  rfl

/-- A function below the arrays is reported whatever the groups are. -/
theorem ofType_of_function {input output : SourceType}
    (function : t.bottom = .function input output) : ofType rule t = .error .functionType := by
  obtain ⟨given, built⟩ := ofType_of_covered array covers
  rw [built, ofBottom_eq, if_neg (by rw [function]; nofun)]
  exact tiers_of_error _ given

/-- Around a number the groups alone decide. -/
theorem ofType_of_number (number : t.bottom = .float) :
    ofType rule t = tiered .float (slicesFrom t.sizes 0 (rule t.sizes.length)) := by
  obtain ⟨given, built⟩ := ofType_of_covered array covers
  rw [built, ofBottom_eq, if_pos number]
  exact tiers_of_ok _ given

end Array

end Node

/-- Which fault building reports, for every split rule. Tiers around a bottom are refused without
groups; else with the fault of the bottom, if it has one; else with the number of sizes of the
innermost group that has neither one nor two; else they are nested in the order of the groups. A
type of arrays is refused for its splits exactly if those do not add up to the number of its sizes,
and only then looked at further: for a function below its arrays, whatever the groups, and only
then for the innermost group that makes no tier. It is never refused for a lack of groups. An
operation is refused with the fault of its input before that of its output. -/
theorem building_reports_in_order (rule : SplitRule) :
    (∀ bottom, Node.ofGroups rule bottom [] = .error .noGroups) ∧
    (∀ bottom groups, groups ≠ [] →
      (∀ fault, Node.ofType rule bottom = .error fault →
        Node.ofGroups rule bottom groups = .error fault) ∧
      ∀ below, Node.ofType rule bottom = .ok below →
        (∀ bad, Node.innermostBad? groups = some bad →
          Node.ofGroups rule bottom groups = .error (.tierRank bad.length)) ∧
        (Node.innermostBad? groups = none →
          Node.ofGroups rule bottom groups = .ok (below.enclosedBy groups))) ∧
    (∀ t element size, t = .array element size →
      let splits := rule t.sizes.length
      let groups := slicesFrom t.sizes 0 splits
      (∀ given count, Node.ofType rule t = .error (.uncovered given count) ↔
        splits.sum ≠ t.sizes.length ∧ given = splits ∧ count = t.sizes.length) ∧
      (Node.ofType rule t = .error .functionType ↔
        splits.sum = t.sizes.length ∧ ∃ input output, t.bottom = .function input output) ∧
      (splits.sum = t.sizes.length → t.bottom = .float →
        (∀ bad, Node.innermostBad? groups = some bad →
          Node.ofType rule t = .error (.tierRank bad.length)) ∧
        (Node.innermostBad? groups = none →
          Node.ofType rule t = .ok (Node.float.enclosedBy groups))) ∧
      Node.ofType rule t ≠ .error .noGroups) ∧
    ∀ m : MapOperation,
      (∀ fault, Node.ofType rule m.input = .error fault →
        Node.ofOperation rule m = .error fault) ∧
      ∀ input, Node.ofType rule m.input = .ok input →
        (∀ fault, Node.ofType rule m.output = .error fault →
          Node.ofOperation rule m = .error fault) ∧
        ∀ output, Node.ofType rule m.output = .ok output →
          Node.ofOperation rule m = .ok (.map input output m.size) := by
  have decides (below : Node) (groups : List (List Int)) :
      (∀ bad, Node.innermostBad? groups = some bad →
        below.tiered groups = .error (.tierRank bad.length)) ∧
      (Node.innermostBad? groups = none → below.tiered groups = .ok (below.enclosedBy groups)) := by
    constructor <;> intros <;> simp only [Node.tiered, *]
  refine ⟨fun _ => rfl, ?tiers, ?array, ?operation⟩
  case tiers =>
    intro bottom groups given
    constructor
    · intro fault refused
      rw [Node.ofGroups, refused]
      exact Node.tiers_of_error fault given
    · intro below built
      rw [Node.ofGroups, built, Node.tiers_of_ok below given]
      exact decides below groups
  case array =>
    intro t element size array splits groups
    by_cases covers : splits.sum = t.sizes.length
    case neg =>
      rw [Node.ofType_of_uncovered array covers]
      simp [covers, splits, eq_comm]
    case pos =>
      rcases t.bottom_cases with number | ⟨input, output, function⟩
      · rw [Node.ofType_of_number array covers number]
        have others : ∀ fault, (∀ rank, fault ≠ .tierRank rank) →
            Node.tiered .float groups ≠ .error fault := by
          intro fault other refused
          obtain ⟨rank, named⟩ := Node.exists_of_tiered_eq_error refused
          exact other rank named
        have unsplit (given : List Int) (count : Nat) := others (.uncovered given count) (by simp)
        have undrawn := others .functionType (by simp)
        refine ⟨?_, ?_, fun _ _ => decides .float groups, others .noGroups (by simp)⟩
        · intro given count
          simp [covers, unsplit, groups, splits]
        · simp [number, undrawn, groups, splits]
      · rw [Node.ofType_of_function array covers function]
        simp [covers, function]
  case operation =>
    intro m
    refine ⟨fun fault refused => ?_, fun input built =>
      ⟨fun fault refused => ?_, fun output made => ?_⟩⟩
    · rw [Node.ofOperation, refused]
      rfl
    · rw [Node.ofOperation, built, refused]
      rfl
    · rw [Node.ofOperation, built, made]
      rfl

/-- Five dimensions cut into groups of one, none, three, none and one: the second empty group is
named, unless a function is below, and splits that do not add up come before the function. Around an
array that is refused, and around a number, with groups of one, none, three and one. -/
theorem building_reports_in_order_five :
    let rule : SplitRule := fun n => if n = 5 then [1, 0, 3, 0, 1] else [2]
    let five (bottom : SourceType) : SourceType :=
      .array (.array (.array (.array (.array bottom 6) 5) 4) 3) 2
    let function : SourceType := .function .float .float
    Node.ofType rule (five .float) = .error (.tierRank 0) ∧
      Node.ofType rule (five function) = .error .functionType ∧
      Node.ofType rule (.array function 2) = .error (.uncovered [2] 1) ∧
      Node.ofGroups rule (.array .float 2) [[1, 2, 3]] = .error (.uncovered [2] 1) ∧
      Node.ofGroups rule .float [[2], [], [3, 4, 5], [6]] = .error (.tierRank 3) ∧
      Node.ofGroups rule .float [[2, 3], [4]] = .ok (.grid (.linear .float 4) 2 3) ∧
      Node.ofOperation rule ⟨five .float, function, 3⟩ = .error (.tierRank 0) ∧
      Node.ofOperation rule ⟨.float, function, 3⟩ = .error .functionType := by
  intro rule five function
  obtain ⟨_, tiers, array, operation⟩ := building_reports_in_order rule
  have number := (array (five .float) _ _ rfl).2.2.1 (by decide) rfl
  have below := (array (five function) _ _ rfl).2.1
  have short := (array (.array function 2) _ _ rfl).1 [2] 1
  have around := tiers .float [[2], [], [3, 4, 5], [6]] (by decide)
  have nested := tiers .float [[2, 3], [4]] (by decide)
  have refused := number.1 [] (by decide)
  refine ⟨refused, below.mpr ⟨by decide, _, _, rfl⟩, short.mpr ⟨by decide, rfl, rfl⟩,
    ?_, ?_, ?_, ?_, ?_⟩
  · exact (tiers (.array .float 2) [[1, 2, 3]] (by decide)).1 _ (by decide)
  · exact (around.2 .float rfl).1 [3, 4, 5] (by decide)
  · exact (nested.2 .float rfl).2 (by decide)
  · exact (operation _).1 _ refused
  · exact ((operation ⟨.float, function, 3⟩).2 .float rfl).1 _ rfl

end ArrayScene

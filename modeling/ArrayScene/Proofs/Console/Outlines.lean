import ArrayScene.Proofs.Console.Legibility

/-!
# Printed trees

The lines of a tree are what a walk through it meets, each node before what lies within it, with the
depth of each. The guides in front of a line follow from the depths alone: a level has a bar if
another line of it is still to come before one further out. The tree of every legible node without
bare parts is printed so, under any name, for a name is escaped within its style. One that is not
legible is not printed at all.
-/
namespace ArrayScene

/-- What a walk through a node meets, outer things first and an input before the output, with the
depths at which they lie. -/
def Node.preorder (depth : Nat) : Node → List (Nat × Shown)
  | float => [(depth, .node float)]
  | linear e n => (depth, .node (linear e n)) :: e.preorder (depth + 1)
  | grid e w h => (depth, .node (grid e w h)) :: e.preorder (depth + 1)
  | map i o n =>
    (depth, .node (map i o n)) :: ((depth + 1, .input) :: i.preorder (depth + 2) ++
      (depth + 1, .output) :: o.preorder (depth + 2))
  | bare c => [(depth, .node (bare c))]

/-- Whether, going by the depths of the later lines, one of a level comes before one further out. -/
def followed (level : Nat) (later : List Nat) : Bool :=
  later.find? (fun depth => depth ≤ level) == some level

/-- The guides of the levels above a depth. -/
def bars : Nat → List Nat → String
  | 0, _ => ""
  | level + 1, later => bars level later ++ if followed level later then "│   " else "    "

/-- The guides in front of a line. -/
def guides (depth : Nat) (later : List Nat) : String :=
  bars depth later ++ if followed depth later then "├── " else "└── "

/-- The lines of a tree without their ends: the guides of each, and what it says. -/
inductive Laid : List (Nat × Shown) → List String → Prop
  | nil : Laid [] []
  | cons {depth : Nat} {shown : Shown} {label : String} {later : List (Nat × Shown)}
    {lines : List String} (labelled : shown.Label label) (rest : Laid later lines) :
    Laid ((depth, shown) :: later) ((guides depth (later.map Prod.fst) ++ label) :: lines)

/-! ### Guides -/

theorem followed_append {level : Nat} {inside : List Nat} (deep : ∀ depth ∈ inside, level < depth)
    (later : List Nat) : followed level (inside ++ later) = followed level later := by
  have passed : inside.find? (fun depth => depth ≤ level) = none := by
    rw [List.find?_eq_none]
    intro depth member
    simpa using deep depth member
  rw [followed, List.find?_append, passed, Option.none_or, followed]

theorem bars_append {depth : Nat} {inside : List Nat} (deep : ∀ d ∈ inside, depth ≤ d)
    (later : List Nat) : bars depth (inside ++ later) = bars depth later := by
  induction depth with
  | zero => rfl
  | succ level ih =>
    rw [bars, bars, ih fun d member => Nat.le_of_succ_le (deep d member), followed_append deep]

theorem followed_of_head {level : Nat} {later : List Nat} (out : ∀ d ∈ later.head?, d < level) :
    followed level later = false := by
  cases later with
  | nil => rfl
  | cons d rest =>
    have outer : d < level := out d rfl
    simp [followed, Nat.le_of_lt outer, Nat.ne_of_lt outer]

theorem followed_cons_self (level : Nat) (later : List Nat) :
    followed level (level :: later) = true := by
  simp [followed]

theorem guides_of_last {depth : Nat} {later : List Nat} (last : followed depth later = false) :
    guides depth later = bars depth later ++ "└── " ∧
      bars (depth + 1) later = bars depth later ++ "    " := by
  rw [guides, bars, last]
  exact ⟨rfl, rfl⟩

theorem guides_of_followed {depth : Nat} {later : List Nat}
    (more : followed depth later = true) :
    guides depth later = bars depth later ++ "├── " ∧
      bars (depth + 1) later = bars depth later ++ "│   " := by
  rw [guides, bars, more]
  exact ⟨rfl, rfl⟩

namespace Node

/-- A walk meets the node itself first and then what lies deeper. -/
theorem exists_preorder_eq (n : Node) (depth : Nat) :
    ∃ inside, n.preorder depth = (depth, .node n) :: inside ∧ ∀ line ∈ inside, depth < line.1 := by
  induction n generalizing depth with
  | float => exact ⟨[], rfl, List.forall_mem_nil _⟩
  | linear e n ih =>
    obtain ⟨inside, walk, deep⟩ := ih (depth + 1)
    refine ⟨_, rfl, ?_⟩
    rw [walk, List.forall_mem_cons]
    exact ⟨Nat.lt_succ_self depth, fun line member => Nat.lt_of_succ_lt (deep line member)⟩
  | grid e w h ih =>
    obtain ⟨inside, walk, deep⟩ := ih (depth + 1)
    refine ⟨_, rfl, ?_⟩
    rw [walk, List.forall_mem_cons]
    exact ⟨Nat.lt_succ_self depth, fun line member => Nat.lt_of_succ_lt (deep line member)⟩
  | map i o n ihInput ihOutput =>
    obtain ⟨above, walk, deep⟩ := ihInput (depth + 2)
    obtain ⟨below, walk', deep'⟩ := ihOutput (depth + 2)
    have under {d : Nat} (deeper : depth + 2 < d) : depth < d := by omega
    refine ⟨_, rfl, ?_⟩
    rw [walk, walk']
    simp only [List.forall_mem_append, List.forall_mem_cons]
    exact ⟨⟨by omega, by omega, fun line member => under (deep line member)⟩, by omega, by omega,
      fun line member => under (deep' line member)⟩
  | bare c => exact ⟨[], rfl, List.forall_mem_nil _⟩

theorem le_of_mem_preorder {n : Node} {depth : Nat} {line : Nat × Shown}
    (member : line ∈ n.preorder depth) : depth ≤ line.1 := by
  obtain ⟨inside, walk, deep⟩ := n.exists_preorder_eq depth
  rw [walk] at member
  rcases List.mem_cons.mp member with rfl | below
  · exact Nat.le_refl depth
  · exact Nat.le_of_lt (deep line below)

end Node

/-! ### Lines -/

namespace Outline

/-- Outlines that are printed as the lines of `inside`, wherever in a tree they are the last ones at
their depth. -/
def Prints (console : Console) (within : List Outline) (depth : Nat)
    (inside : List (Nat × Shown)) : Prop :=
  ∀ later : List (Nat × Shown), (∀ line ∈ later.head?, line.1 < depth) →
    ∃ lines : List String,
      linesWithin console (bars depth (later.map Prod.fst)) within =
        .ok (lines.map (· ++ "\n")) ∧
      ∀ more, Laid later more → Laid (inside ++ later) (lines ++ more)

theorem prints_nil (console : Console) (depth : Nat) : Prints console [] depth [] :=
  fun _ _ => ⟨[], linesWithin.eq_1 _ _, fun _ laid => laid⟩

section Item

variable {console : Console} {shown : Shown} {label : String} {within : List Outline} {depth : Nat}
  {inside : List (Nat × Shown)}

theorem guides_item (deep : ∀ line ∈ inside, depth < line.1) (later : List (Nat × Shown)) :
    guides depth ((inside ++ later).map Prod.fst) = guides depth (later.map Prod.fst) := by
  have deeper : ∀ d ∈ inside.map Prod.fst, depth < d := by
    simpa using fun d shown member => deep (d, shown) member
  rw [List.map_append, guides, followed_append deeper,
    bars_append fun d member => Nat.le_of_lt (deeper d member), guides]

/-- The last item at its depth. -/
theorem prints_single (labelled : shown.Label label)
    (prints : Prints console within (depth + 1) inside)
    (deep : ∀ line ∈ inside, depth < line.1) :
    Prints console [.item label within] depth ((depth, shown) :: inside) := by
  intro later out
  have last : followed depth (later.map Prod.fst) = false :=
    followed_of_head (by simpa using out)
  obtain ⟨front, below⟩ := guides_of_last last
  obtain ⟨lines, printed, laid⟩ :=
    prints later fun line member => Nat.lt_succ_of_lt (out line member)
  rw [below] at printed
  refine ⟨(guides depth (later.map Prod.fst) ++ label) :: lines, ?_, fun more rest => ?_⟩
  · rw [linesWithin, labelled.line console, printed, front, List.map_cons, String.append_assoc]
    rfl
  · rw [← guides_item deep later]
    exact .cons labelled (laid more rest)

/-- An item that another one follows at its depth. -/
theorem prints_pair {shown' : Shown} {other : Outline} {behind : List (Nat × Shown)}
    (labelled : shown.Label label) (prints : Prints console within (depth + 1) inside)
    (deep : ∀ line ∈ inside, depth < line.1)
    (last : Prints console [other] depth ((depth, shown') :: behind))
    (deep' : ∀ line ∈ behind, depth < line.1) :
    Prints console [.item label within, other] depth
      ((depth, shown) :: inside ++ (depth, shown') :: behind) := by
  intro later out
  let after := (depth, shown') :: (behind ++ later)
  have more : followed depth (after.map Prod.fst) = true := followed_cons_self _ _
  have same : bars depth (after.map Prod.fst) = bars depth (later.map Prod.fst) := by
    have inner : ∀ d ∈ depth :: behind.map Prod.fst, depth ≤ d := by
      rw [List.forall_mem_cons]
      refine ⟨Nat.le_refl depth, ?_⟩
      simpa using fun d shown member => Nat.le_of_lt (deep' (d, shown) member)
    simpa [after] using bars_append inner (later.map Prod.fst)
  obtain ⟨front, below⟩ := guides_of_followed more
  rw [same] at front below
  obtain ⟨lines, printed, laid⟩ := prints after (by simp [after])
  obtain ⟨lines', printed', laid'⟩ := last later out
  rw [below] at printed
  refine ⟨(guides depth (after.map Prod.fst) ++ label) :: lines ++ lines', ?_,
    fun rest laidRest => ?_⟩
  · rw [linesWithin, labelled.line console, printed, printed', front, List.map_append,
      List.map_cons, String.append_assoc]
    · rfl
    · exact List.cons_ne_nil _ _
  · have ordered : (depth, shown) :: inside ++ (depth, shown') :: behind ++ later =
        (depth, shown) :: (inside ++ after) := by
      simp [after]
    rw [ordered, ← guides_item deep after, List.append_assoc]
    exact .cons labelled (laid _ (laid' rest laidRest))

end Item

end Outline

namespace Node

/-- The outline of a node without bare parts is printed as the walk through it, at any depth. -/
theorem prints_of_outline {console : Console} {n : Node} {within : List Outline}
    (sized : n.leftmostBare? = none) (outlined : n.outline = .ok within) (depth : Nat) :
    Outline.Prints console within depth (n.preorder depth) := by
  induction n generalizing within depth with
  | float =>
    obtain ⟨label, labelled, same⟩ := exists_of_bind_eq_ok outlined
    cases same
    exact Outline.prints_single (label_of_eq_ok sized labelled) (Outline.prints_nil console _)
      (List.forall_mem_nil _)
  | linear e k ih =>
    obtain ⟨label, labelled, rest⟩ := exists_of_bind_eq_ok outlined
    obtain ⟨inner, listed, same⟩ := exists_of_bind_eq_ok rest
    cases same
    exact Outline.prints_single (label_of_eq_ok sized labelled) (ih sized listed _)
      fun _ => le_of_mem_preorder
  | grid e k l ih =>
    obtain ⟨label, labelled, rest⟩ := exists_of_bind_eq_ok outlined
    obtain ⟨inner, listed, same⟩ := exists_of_bind_eq_ok rest
    cases same
    exact Outline.prints_single (label_of_eq_ok sized labelled) (ih sized listed _)
      fun _ => le_of_mem_preorder
  | map i o k ihInput ihOutput =>
    obtain ⟨label, labelled, rest⟩ := exists_of_bind_eq_ok outlined
    obtain ⟨above, upper, rest⟩ := exists_of_bind_eq_ok rest
    obtain ⟨below, lower, same⟩ := exists_of_bind_eq_ok rest
    cases same
    have shown := label_of_eq_ok sized labelled
    rw [leftmostBare?, Option.or_eq_none_iff] at sized
    have output := Outline.prints_single .output (ihOutput sized.2 lower (depth + 2))
      fun _ => le_of_mem_preorder
    have sides := Outline.prints_pair .input (ihInput sized.1 upper (depth + 2))
      (fun _ => le_of_mem_preorder) output fun _ => le_of_mem_preorder
    obtain ⟨_, walk, deep⟩ := (map i o k).exists_preorder_eq depth
    cases walk
    exact Outline.prints_single shown sides deep
  | bare c => cases sized

theorem sized_of_ofSubject {rule : SplitRule} {s : Subject} {node : Node}
    (built : ofSubject rule s = .ok node) : node.leftmostBare? = none := by
  obtain ⟨_, w, _, _, width, _⟩ := drawn_of_ofSubject built
  exact leftmostBare?_eq_none_iff.mpr (followsParts_width.ok_iff.mp ⟨w, width⟩)

end Node

namespace Command

/-- What stands at the top of a tree: the name of the request in one style. -/
def heading (name : String) : String :=
  "[bold]" ++ String.ofList (Markup.escape name.toList) ++ "[/]"

theorem toList_heading (name : String) : (heading name).toList =
    '[' :: ("bold".toList ++ ']' :: (Markup.escape name.toList ++ ['[', '/', ']'])) := by
  simp [heading]

/-- A name is printed whatever it is. -/
theorem line_heading (console : Console) (name : String) :
    ∃ shown, console.line (heading name) = .ok shown := by
  apply Console.line_of_check
  rw [toList_heading]
  exact Markup.check_escape (by decide) name.toList

/-- A name of plain characters without brackets is printed as it is. -/
theorem line_heading_of_plain (console : Console) {name : String}
    (plain : ∀ c ∈ name.toList, Console.isPlain c = true) (brackets : '[' ∉ name.toList) :
    console.line (heading name) = .ok (name ++ "\n") := by
  have backslash : '\\' ∉ name.toList := Console.not_mem_of_plain (by decide) plain
  have colon : ':' ∉ name.toList := Console.not_mem_of_plain (by decide) plain
  refine Console.line_of_print ?_ plain
  rw [toList_heading, Markup.escape_of_plain brackets backslash]
  exact Markup.print_styled (by decide) brackets backslash colon

section Tree

variable {node : Node} (sized : node.leftmostBare? = none) (console : Console) (name : String)
include sized

/-- The tree of a legible node without bare parts, under every name. -/
theorem treeText_of_legible (legible : node.Legible) :
    ∃ first lines, console.line (heading name) = .ok first ∧ Laid (node.preorder 0) lines ∧
      treeText console name node = .ok (first ++ String.join (lines.map (· ++ "\n"))) := by
  obtain ⟨first, line⟩ := line_heading console name
  obtain ⟨within, outlined⟩ := Node.outline_of_legible sized legible
  obtain ⟨lines, printed, laid⟩ := Node.prints_of_outline sized outlined 0 [] (by simp)
  have whole : Laid (node.preorder 0) lines := by
    simpa using laid [] .nil
  have top : Outline.linesWithin console "" within = .ok (lines.map (· ++ "\n")) := printed
  refine ⟨first, lines, line, whole, ?_⟩
  rw [heading] at line
  rw [treeText, outlined]
  simp only [Outline.print, line, top, bind, Except.bind]

/-- One that is not legible has no tree, for its number of digits and for no other reason. -/
theorem treeText_of_not_legible (long : ¬node.Legible) :
    treeText console name node = .error .digitLimit := by
  rw [treeText, Node.outline_of_not_legible sized long]

end Tree

end Command

end ArrayScene

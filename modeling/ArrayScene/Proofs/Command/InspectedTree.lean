import ArrayScene.Proofs.Command.Agreement
import ArrayScene.Proofs.SavedDocuments

/-!
# Trees read back

The lines that `inspect` prints below the name of a request determine the node. Each label tells the
kind of its node, and with it how many nodes lie within, so a walk is read back from its front
without a mark for its end. The ends of the lines are found again because no line has one within.
-/
namespace ArrayScene

/-! ### Lines of a text -/

/-- Lines without line ends within are found again in the whole text. -/
theorem join_lines_injective {lines lines' : List String}
    (whole : ∀ line ∈ lines, '\n' ∉ line.toList)
    (whole' : ∀ line ∈ lines', '\n' ∉ line.toList)
    (same : String.join (lines.map (· ++ "\n")) = String.join (lines'.map (· ++ "\n"))) :
    lines = lines' := by
  induction lines generalizing lines' with
  | nil =>
    cases lines' with
    | nil => rfl
    | cons line rest =>
      have characters := congrArg String.toList same
      simp at characters
  | cons line rest ih =>
    cases lines' with
    | nil =>
      have characters := congrArg String.toList same
      simp at characters
    | cons line' rest' =>
      rw [List.forall_mem_cons] at whole whole'
      have characters : line.toList ++ '\n' :: (String.join (rest.map (· ++ "\n"))).toList =
          line'.toList ++ '\n' :: (String.join (rest'.map (· ++ "\n"))).toList := by
        simpa using congrArg String.toList same
      obtain ⟨first, others⟩ := append_cons_inj_of_first whole.1 whole'.1 characters
      rw [String.toList_inj.mp first, ih whole.2 whole'.2 (String.toList_inj.mp others)]

theorem length_bars (depth : Nat) (later : List Nat) : (bars depth later).length = 4 * depth := by
  induction depth with
  | zero => rfl
  | succ level ih =>
    rw [bars, String.length_append, ih]
    split <;> rfl

theorem length_guides (depth : Nat) (later : List Nat) :
    (guides depth later).length = 4 * depth + 4 := by
  rw [guides, String.length_append, length_bars]
  split <;> rfl

theorem lineEnd_not_mem_bars (depth : Nat) (later : List Nat) :
    '\n' ∉ (bars depth later).toList := by
  induction depth with
  | zero => exact List.not_mem_nil
  | succ level ih =>
    rw [bars, String.toList_append, List.mem_append, not_or]
    refine ⟨ih, ?_⟩
    split <;> decide

theorem lineEnd_not_mem_guides (depth : Nat) (later : List Nat) :
    '\n' ∉ (guides depth later).toList := by
  rw [guides, String.toList_append, List.mem_append, not_or]
  refine ⟨lineEnd_not_mem_bars depth later, ?_⟩
  split <;> decide

namespace Laid

variable {walk walk' : List (Nat × Shown)} {lines : List String}

/-- Each line of a tree is one line. -/
theorem lineEnd_not_mem (laid : Laid walk lines) : ∀ line ∈ lines, '\n' ∉ line.toList := by
  induction laid with
  | nil => exact List.forall_mem_nil _
  | cons labelled rest ih =>
    rw [List.forall_mem_cons, String.toList_append, List.mem_append, not_or]
    exact ⟨⟨lineEnd_not_mem_guides _ _, Console.not_mem_of_plain (by decide) labelled.plain⟩, ih⟩

/-- Walks that begin at one depth and have the same lines have the same label first. -/
theorem same_label {depth : Nat} {shown shown' : Shown} {later later' : List (Nat × Shown)}
    (laid : Laid ((depth, shown) :: later) lines) (laid' : Laid ((depth, shown') :: later') lines) :
    ∃ label rest, shown.Label label ∧ shown'.Label label ∧ Laid later rest ∧ Laid later' rest := by
  generalize same : lines = lines' at laid'
  cases laid with
  | @cons _ _ label _ rest labelled below =>
    cases laid' with
    | @cons _ _ label' _ rest' labelled' below' =>
      obtain ⟨first, rfl⟩ := List.cons.inj same
      -- The guides are as long as the depth demands, whatever follows.
      have long : (guides depth (later.map Prod.fst)).toList.length =
          (guides depth (later'.map Prod.fst)).toList.length := by
        rw [String.length_toList, String.length_toList, length_guides, length_guides]
      have characters := congrArg String.toList first
      rw [String.toList_append, String.toList_append] at characters
      obtain rfl := String.toList_inj.mp (List.append_inj characters long).2
      exact ⟨label, rest, labelled, labelled', below, below'⟩

/-- Walks through nodes at one depth that have the same lines begin with nodes of one kind and with
the same sizes. -/
theorem same_kind {n m : Node} {depth : Nat} {later later' : List (Nat × Shown)}
    (laid : Laid (n.preorder depth ++ later) lines)
    (laid' : Laid (m.preorder depth ++ later') lines) :
    n.kind = m.kind ∧ n.ownSizes = m.ownSizes ∧
      ∃ rest, Laid ((n.preorder depth).tail ++ later) rest ∧
        Laid ((m.preorder depth).tail ++ later') rest := by
  obtain ⟨inside, walk, _⟩ := n.exists_preorder_eq depth
  obtain ⟨inside', walk', _⟩ := m.exists_preorder_eq depth
  rw [walk] at laid ⊢
  rw [walk'] at laid' ⊢
  obtain ⟨label, rest, labelled, labelled', below, below'⟩ := laid.same_label laid'
  obtain ⟨kind, sizes⟩ := labelled.kind_and_sizes labelled'
  exact ⟨kind, sizes, rest, below, below'⟩

end Laid

/-- A walk is read back from the front of its lines, and what follows it has the lines left. -/
theorem Node.eq_of_laid {n m : Node} {depth : Nat} {later later' : List (Nat × Shown)}
    {lines : List String} (laid : Laid (n.preorder depth ++ later) lines)
    (laid' : Laid (m.preorder depth ++ later') lines) :
    n = m ∧ ∃ rest, Laid later rest ∧ Laid later' rest := by
  induction n generalizing m depth later later' lines with
  | float =>
    obtain ⟨kind, _, left⟩ := laid.same_kind laid'
    cases m <;> cases kind
    exact ⟨rfl, left⟩
  | linear e k ih =>
    obtain ⟨kind, sizes, rest, below, below'⟩ := laid.same_kind laid'
    cases m <;> cases kind
    cases sizes
    obtain ⟨rfl, left⟩ := ih below below'
    exact ⟨rfl, left⟩
  | grid e k l ih =>
    obtain ⟨kind, sizes, rest, below, below'⟩ := laid.same_kind laid'
    cases m <;> cases kind
    cases sizes
    obtain ⟨rfl, left⟩ := ih below below'
    exact ⟨rfl, left⟩
  | map i o k ihInput ihOutput =>
    obtain ⟨kind, sizes, rest, below, below'⟩ := laid.same_kind laid'
    cases m <;> cases kind
    cases sizes
    simp only [preorder, List.tail_cons, List.cons_append, List.append_assoc] at below below'
    obtain ⟨_, _, _, _, input, input'⟩ := below.same_label below'
    obtain ⟨rfl, _, behind, behind'⟩ := ihInput input input'
    obtain ⟨_, _, _, _, output, output'⟩ := behind.same_label behind'
    obtain ⟨rfl, left⟩ := ihOutput output output'
    exact ⟨rfl, left⟩
  | bare c =>
    obtain ⟨kind, _, left⟩ := laid.same_kind laid'
    cases m <;> cases kind
    exact ⟨rfl, left⟩

/-- The walk through a node meets all that is within it, and nothing else. -/
theorem Node.within_iff_mem_preorder {n m : Node} {depth : Nat} :
    m.Within n ↔ ∃ d, (d, Shown.node m) ∈ n.preorder depth := by
  constructor
  · intro within
    induction within generalizing depth with
    | here =>
      obtain ⟨_, walk, _⟩ := m.exists_preorder_eq depth
      exact ⟨depth, walk ▸ List.mem_cons_self⟩
    | linear _ ih =>
      obtain ⟨d, member⟩ := @ih (depth + 1)
      exact ⟨d, List.mem_cons_of_mem _ member⟩
    | grid _ ih =>
      obtain ⟨d, member⟩ := @ih (depth + 1)
      exact ⟨d, List.mem_cons_of_mem _ member⟩
    | input _ ih =>
      obtain ⟨d, member⟩ := @ih (depth + 2)
      exact ⟨d, by simp [preorder, member]⟩
    | output _ ih =>
      obtain ⟨d, member⟩ := @ih (depth + 2)
      exact ⟨d, by simp [preorder, member]⟩
  · rintro ⟨d, member⟩
    induction n generalizing depth with
    | float =>
      cases List.mem_singleton.mp member
      exact .here
    | linear e n ih =>
      rcases List.mem_cons.mp member with same | inside
      · cases same
        exact .here
      · exact .linear (ih inside)
    | grid e w h ih =>
      rcases List.mem_cons.mp member with same | inside
      · cases same
        exact .here
      · exact .grid (ih inside)
    | map i o n ihInput ihOutput =>
      simp only [preorder, List.cons_append, List.mem_cons, List.mem_append, Prod.mk.injEq,
        Shown.node.injEq, reduceCtorEq, and_false, false_or] at member
      rcases member with ⟨_, rfl⟩ | inside | inside
      · exact .here
      · exact .input (ihInput inside)
      · exact .output (ihOutput inside)
    | bare c =>
      cases List.mem_singleton.mp member
      exact .here

theorem SourceType.regular_toJson (t : SourceType) : Json.Regular t.toJson := by
  induction t with
  | float => exact Json.regular_obj (by simp) (by simp)
  | array element size ih => exact Json.regular_obj (by simp) (by simp [ih])
  | function input output ihInput ihOutput =>
    exact Json.regular_obj (by simp) (by simp [ihInput, ihOutput])

/-- A request in its full form can be stored if its sizes can be written. -/
theorem Request.regular_toJson (r : Request) : Json.Regular r.toJson := by
  obtain ⟨name, t | m⟩ := r
  · have type : Json.Regular t.toJson := t.regular_toJson
    exact Json.regular_obj (by simp) (by simp [Subject.type?, Subject.operation?, type])
  · have operation : Json.Regular m.toJson :=
      Json.regular_obj (by simp) (by simp [SourceType.regular_toJson])
    exact Json.regular_obj (by simp) (by simp [Subject.type?, Subject.operation?, operation])

/-- A path from which a request is loaded leads to something. -/
theorem Disk.has_of_loadRequest {d : Disk} {p : Path} {r : Request}
    (loaded : d.loadRequest p = .ok r) : d.has p = true := by
  obtain ⟨fields, object, _⟩ := loadRequest_ok_iff.mp loaded
  obtain ⟨bytes, content, _⟩ := loadObject_ok_iff.mp object
  obtain ⟨entry, look, _⟩ := exists_of_bind_eq_ok content
  rw [has, look]

namespace Command

section Inspected

variable (console : Console) {env : Environment} {config : Option Path} {disk : Disk} {file : Path}
  {settings : Settings} {r : Request} {node : Node}
  (resolved : Settings.resolve env config disk = .ok settings)
  (loaded : disk.loadRequest file = .ok r)
  (built : Node.ofSubject pairwise r.subject = .ok node)
include resolved loaded built

/-- What `inspect` prints of a legible node. -/
theorem inspect_of_legible (legible : node.Legible) :
    ∃ first lines, console.line (heading r.name) = .ok first ∧ Laid (node.preorder 0) lines ∧
      inspect console env file config disk =
        ⟨disk, first ++ String.join (lines.map (· ++ "\n")), .exit 0⟩ := by
  have there : disk.has file = true := Disk.has_of_loadRequest loaded
  obtain ⟨first, lines, line, laid, printed⟩ :=
    treeText_of_legible (Node.sized_of_ofSubject built) console r.name legible
  exact ⟨first, lines, line, laid, inspect_of_tree console there resolved loaded built printed⟩

/-- What stands below the name, if anything is printed at all, is the walk through the node. -/
theorem laid_of_printed {first below : String} (line : console.line (heading r.name) = .ok first)
    (printed : (inspect console env file config disk).printed = first ++ below) :
    ∃ lines, Laid (node.preorder 0) lines ∧ below = String.join (lines.map (· ++ "\n")) := by
  by_cases legible : node.Legible
  · obtain ⟨first', lines, line', laid, inspected⟩ :=
      inspect_of_legible console resolved loaded built legible
    cases line.symm.trans line'
    rw [inspected, String.append_right_inj] at printed
    exact ⟨lines, laid, printed.symm⟩
  · have there : disk.has file = true := Disk.has_of_loadRequest loaded
    rw [inspect_of_not_legible console there resolved loaded built legible] at printed
    exact absurd (String.append_eq_empty_iff.mp printed.symm).1 (Console.ne_empty_of_line line)

end Inspected

/-- `inspect` shows the whole tree of a node that has been built, if each number in it has few
enough digits to be printed, and nothing in the lines below the name leaves it open which node that
is. The lines are those of the walk through the node, which meets everything within it: each has the
guides that the depths of the later lines demand, and says the kind, the sizes and the extent of the
very node it shows. No label is changed by being printed. Where a number has more digits, nothing is
printed at all. Whatever the consoles, the names, the files, the settings and the disks are, two
requests with the same text below their names have the same node. -/
theorem inspected_lines_determine_node (console : Console) {env : Environment}
    {config : Option Path} {disk : Disk} {file : Path} {settings : Settings} {r : Request}
    {node : Node} (resolved : Settings.resolve env config disk = .ok settings)
    (loaded : disk.loadRequest file = .ok r)
    (built : Node.ofSubject pairwise r.subject = .ok node) :
    (node.Legible → ∃ first lines, console.line (heading r.name) = .ok first ∧
      inspect console env file config disk =
        ⟨disk, first ++ String.join (lines.map (· ++ "\n")), .exit 0⟩ ∧
      Laid (node.preorder 0) lines ∧ ∀ line ∈ lines, '\n' ∉ line.toList) ∧
    (¬node.Legible → inspect console env file config disk = ⟨disk, "", .escaped .digitLimit⟩) ∧
    (∀ part : Node, part.Within node ↔ ∃ depth, (depth, .node part) ∈ node.preorder 0) ∧
    (∀ (shown : Shown) (label : String), shown.Label label →
      console.line label = .ok (label ++ "\n")) ∧
    ∀ console' env' config' disk' file' settings' r' node' first first' below,
      Settings.resolve env' config' disk' = .ok settings' →
      disk'.loadRequest file' = .ok r' → Node.ofSubject pairwise r'.subject = .ok node' →
      console.line (heading r.name) = .ok first →
      Console.line console' (heading r'.name) = .ok first' →
      (inspect console env file config disk).printed = first ++ below →
      (inspect console' env' file' config' disk').printed = first' ++ below → node = node' := by
  refine ⟨?lines, ?nothing, fun _ => Node.within_iff_mem_preorder,
    fun _ _ labelled => labelled.line console, ?determined⟩
  case lines =>
    intro legible
    obtain ⟨first, lines, line, laid, inspected⟩ :=
      inspect_of_legible console resolved loaded built legible
    exact ⟨first, lines, line, inspected, laid, laid.lineEnd_not_mem⟩
  case nothing =>
    exact inspect_of_not_legible console (Disk.has_of_loadRequest loaded) resolved loaded built
  case determined =>
    intro console' env' config' disk' file' settings' r' node' first first' below resolved' loaded'
      built' line line' printed printed'
    obtain ⟨lines, laid, same⟩ := laid_of_printed console resolved loaded built line printed
    obtain ⟨lines', laid', same'⟩ :=
      laid_of_printed console' resolved' loaded' built' line' printed'
    have one : lines = lines' :=
      join_lines_injective laid.lineEnd_not_mem laid'.lineEnd_not_mem (same.symm.trans same')
    subst one
    rw [← List.append_nil (node.preorder 0)] at laid
    rw [← List.append_nil (node'.preorder 0)] at laid'
    exact (Node.eq_of_laid laid laid').1

/-- A request to map a function from blocks of three dimensions to rows over five elements. -/
def blocksToRows : Request :=
  ⟨"a", .operation ⟨.array (.array (.array .float 4) 3) 2, .array .float 7, 5⟩⟩

theorem loadRequest_blocksToRows :
    (onlyRequest blocksToRows.toJson).loadRequest ⟨.relative, ["ir", "a.json"]⟩ =
      .ok blocksToRows := by
  have storable : Json.Storable blocksToRows.toJson := blocksToRows.regular_toJson rfl
  exact loadRequest_onlyRequest storable rfl

theorem legible_blocksToRows :
    (Node.map (.grid (.linear .float 4) 2 3) (.linear .float 7) 5).Legible := by
  have positive : blocksToRows.subject.Positive := by
    simp [blocksToRows, Subject.Positive, MapOperation.Positive, SourceType.Positive]
  have built : Node.ofSubject pairwise blocksToRows.subject =
      .ok (.map (.grid (.linear .float 4) 2 3) (.linear .float 7) 5) := rfl
  exact (Node.isBuilt_of_ofSubject positive built).legible rfl rfl (by decide) (by decide)

/-- A map between tiers of two kinds is shown in nine lines, and no other node is shown in these
lines, under whatever name. -/
theorem inspected_lines_of_blocks_to_rows :
    let disk := onlyRequest blocksToRows.toJson
    let file : Path := ⟨.relative, ["ir", "a.json"]⟩
    let node := Node.map (.grid (.linear .float 4) 2 3) (.linear .float 7) 5
    let below :=
      "└── Map[5] 13x9\n" ++
      "    ├── input\n" ++
      "    │   └── GridArray[2x3] 8x3\n" ++
      "    │       └── LinearArray[4] 4x1\n" ++
      "    │           └── Float 1x1\n" ++
      "    └── output\n" ++
      "        └── LinearArray[7] 7x1\n" ++
      "            └── Float 1x1\n"
    Settings.resolve [] none disk = .ok .default ∧ disk.loadRequest file = .ok blocksToRows ∧
      Node.ofSubject pairwise blocksToRows.subject = .ok node ∧ node.Legible ∧
      inspect .plain [] file none disk = ⟨disk, "a\n" ++ below, .exit 0⟩ ∧
      ∀ console' env' config' disk' file' settings' r' node' first',
        Settings.resolve env' config' disk' = .ok settings' →
        disk'.loadRequest file' = .ok r' → Node.ofSubject pairwise r'.subject = .ok node' →
        Console.line console' (heading r'.name) = .ok first' →
        (inspect console' env' file' config' disk').printed = first' ++ below → node = node' := by
  intro disk file node below
  have resolved : Settings.resolve [] none disk = .ok .default := rfl
  have built : Node.ofSubject pairwise blocksToRows.subject = .ok node := rfl
  have line : Console.plain.line (heading "a") = .ok "a\n" :=
    line_heading_of_plain .plain (Console.plain_of_all (by decide)) (by decide)
  obtain ⟨_, _, _, _, determined⟩ :=
    inspected_lines_determine_node .plain resolved loadRequest_blocksToRows built
  have tree : treeText .plain "a" node = .ok ("a\n" ++ below) := by
    have outlined : node.outline = .ok [.item "Map[5] 13x9" [
        .item "input" [.item "GridArray[2x3] 8x3" [
          .item "LinearArray[4] 4x1" [.item "Float 1x1" []]]],
        .item "output" [.item "LinearArray[7] 7x1" [.item "Float 1x1" []]]]] := rfl
    have labels :
        Console.plain.line "Map[5] 13x9" = .ok "Map[5] 13x9\n" ∧
        Console.plain.line "input" = .ok "input\n" ∧
        Console.plain.line "GridArray[2x3] 8x3" = .ok "GridArray[2x3] 8x3\n" ∧
        Console.plain.line "LinearArray[4] 4x1" = .ok "LinearArray[4] 4x1\n" ∧
        Console.plain.line "Float 1x1" = .ok "Float 1x1\n" ∧
        Console.plain.line "output" = .ok "output\n" ∧
        Console.plain.line "LinearArray[7] 7x1" = .ok "LinearArray[7] 7x1\n" := by
      refine ⟨?_, Shown.Label.input.line .plain, ?_, ?_, ?_, Shown.Label.output.line .plain, ?_⟩
      · exact (Shown.Label.node (.map _ _ 5) (rfl : node.width = _) rfl).line .plain
      · exact (Shown.Label.node (.grid (.linear .float 4) 2 3) rfl rfl).line .plain
      · exact (Shown.Label.node (.linear .float 4) rfl rfl).line .plain
      · exact (Shown.Label.node .float rfl rfl).line .plain
      · exact (Shown.Label.node (.linear .float 7) rfl rfl).line .plain
    rw [heading] at line
    simp only [treeText, outlined, Outline.print, Outline.linesWithin, line, labels, bind,
      Except.bind]
    rfl
  have inspected : inspect .plain [] file none disk = ⟨disk, "a\n" ++ below, .exit 0⟩ := by
    have there : disk.has file = true := rfl
    exact inspect_of_tree .plain there resolved loadRequest_blocksToRows built tree
  refine ⟨resolved, loadRequest_blocksToRows, built, legible_blocksToRows, inspected, ?_⟩
  intro console' env' config' disk' file' settings' r' node' first' resolved' loaded' built' line'
    printed'
  exact determined console' env' config' disk' file' settings' r' node' "a\n" first' below resolved'
    loaded' built' line line' (congrArg Outcome.printed inspected) printed'

/-- Of a row of rows whose size has 3000 digits no tree is printed, though its node is built. -/
theorem no_lines_of_long_row :
    let disk := onlyRequest (rowOfRows longSize)
    let file : Path := ⟨.relative, ["ir", "a.json"]⟩
    ∃ r node, Settings.resolve [] none disk = .ok .default ∧ disk.loadRequest file = .ok r ∧
      r.Valid ∧ Node.ofSubject pairwise r.subject = .ok node ∧
      ¬∃ first lines, Console.plain.line (heading r.name) = .ok first ∧
        Laid (node.preorder 0) lines ∧
        (inspect .plain [] file none disk).printed =
          first ++ String.join (lines.map (· ++ "\n")) := by
  intro disk file
  have valid := Disk.valid_of_loadRequest loadRequest_longRow
  refine ⟨_, _, rfl, loadRequest_longRow, valid, ofSubject_rowOfRows, ?_⟩
  rintro ⟨first, lines, line, _, printed⟩
  rw [inspect_longRow] at printed
  exact Console.ne_empty_of_line line (String.append_eq_empty_iff.mp printed.symm).1

end Command

end ArrayScene

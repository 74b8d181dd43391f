import ArrayScene.Proofs.Alignment
import ArrayScene.Proofs.NodeFaults
import Mathlib.Data.List.Induction

/-!
# Centred nodes

An alignment moves every node to the middle of the widest one, as closely as whole units allow. It
has each node once, in the order in which they are met first, and the shift of a node is the same in
every alignment of the same set of nodes. What can go wrong is that there are no nodes, or that one
has no width: then the first such node decides.
-/
namespace ArrayScene

/-- Of the items that are left where repeated ones are dropped, those that occurred first are
first. -/
theorem pairwise_idxOf_eraseDups {α : Type} [BEq α] [LawfulBEq α] (items : List α) :
    items.eraseDups.Pairwise fun a b => items.idxOf a < items.idxOf b := by
  induction items using List.reverseRecOn with
  | nil => exact .nil
  | append_singleton items last ih =>
    have before {a : α} (member : a ∈ items.eraseDups) :
        (items ++ [last]).idxOf a = items.idxOf a :=
      List.idxOf_append_of_mem (List.mem_eraseDups.mp member)
    have kept : items.eraseDups.Pairwise fun a b =>
        (items ++ [last]).idxOf a < (items ++ [last]).idxOf b := by
      refine ih.imp_of_mem fun left right less => ?_
      rwa [before left, before right]
    rw [List.eraseDups_append, List.pairwise_append]
    refine ⟨kept, ?_, ?_⟩
    · by_cases seen : last ∈ items
      · simp [List.removeAll, seen]
      · simp [List.removeAll, seen, List.eraseDups_cons]
    · intro a member b added
      have new : b = last ∧ b ∉ items := by
        simpa [List.removeAll] using added
      obtain ⟨rfl, new⟩ := new
      rw [before member, List.idxOf_append_of_notMem new]
      exact Nat.lt_add_right _ (List.idxOf_lt_length_iff.mpr (List.mem_eraseDups.mp member))

namespace Node

variable {nodes : List Node}

/-- What is found of nodes without a width: the first one. -/
theorem widths_eq_error_iff (known : List (Node × Int)) {fault : SceneFault} :
    widths known nodes = .error fault ↔ ∃ before n after, nodes = before ++ n :: after ∧
      (∀ m ∈ before, ∃ w, m.width = .ok w) ∧ n.width = .error fault := by
  induction nodes generalizing known with
  | nil => simp [widths]
  | cons n rest ih =>
    rw [widths]
    cases width : n.width with
    | error other =>
      simp only [bind, Except.bind, Except.error.injEq]
      constructor
      · rintro rfl
        exact ⟨[], n, rest, rfl, List.forall_mem_nil _, width⟩
      · rintro ⟨before, m, after, split, measured, refused⟩
        cases before with
        | nil =>
          cases split
          exact Except.error.inj (width.symm.trans refused)
        | cons first before =>
          cases split
          obtain ⟨w, found⟩ := measured n List.mem_cons_self
          cases width.symm.trans found
    | ok w =>
      simp only [bind, Except.bind]
      rw [ih]
      constructor
      · rintro ⟨before, m, after, rfl, measured, refused⟩
        exact ⟨n :: before, m, after, rfl, List.forall_mem_cons.mpr ⟨⟨w, width⟩, measured⟩, refused⟩
      · rintro ⟨before, m, after, split, measured, refused⟩
        cases before with
        | nil =>
          cases split
          cases width.symm.trans refused
        | cons first before =>
          cases split
          exact ⟨before, m, after, rfl, (List.forall_mem_cons.mp measured).2, refused⟩

theorem measured_of_widths {known all : List (Node × Int)} (found : widths known nodes = .ok all) :
    ∀ n ∈ nodes, ∃ w, n.width = .ok w := by
  induction nodes generalizing known with
  | nil => exact List.forall_mem_nil _
  | cons n rest ih =>
    obtain ⟨w, width, later⟩ := exists_of_bind_eq_ok found
    exact List.forall_mem_cons.mpr ⟨⟨w, width⟩, ih later⟩

/-- The nodes centred on one axis, `most` being the width of the widest: each node once, in the
order in which the nodes are met first, with the distance by which it is moved to the right. -/
structure Centred (nodes : List Node) (most : Int) (alignment : List (Node × Int)) : Prop where
  upper : ∀ n ∈ nodes, ∃ w, n.width = .ok w ∧ w ≤ most
  reached : ∃ n ∈ nodes, n.width = .ok most
  members : ∀ n, n ∈ alignment.map Prod.fst ↔ n ∈ nodes
  inOrder : (alignment.map Prod.fst).Pairwise fun a b => nodes.idxOf a < nodes.idxOf b
  shifts : ∀ n s, (n, s) ∈ alignment → ∃ w, n.width = .ok w ∧ 0 ≤ s ∧ s + w ≤ most ∧
    (2 * s + w = most ∨ 2 * s + w = most - 1)
  unmoved : ∃ n, (n, 0) ∈ alignment

/-- Nodes that have a width are centred. -/
theorem centred_of_measured {measure : Node → Int}
    (measured : ∀ n ∈ nodes, n.width = .ok (measure n)) (given : nodes ≠ []) :
    ∃ most, align nodes = .ok (nodes.eraseDups.map fun n => (n, (most - measure n) / 2)) ∧
      Centred nodes most (nodes.eraseDups.map fun n => (n, (most - measure n) / 2)) := by
  obtain ⟨most, upper, ⟨widest, among, reached⟩, aligned⟩ := align_eq measured given
  have firsts : (nodes.eraseDups.map fun n => (n, (most - measure n) / 2)).map Prod.fst =
      nodes.eraseDups := by
    rw [List.map_map, Function.comp_def, List.map_id']
  refine ⟨most, aligned, ?_⟩
  constructor
  case upper => exact fun n member => ⟨measure n, measured n member, upper n member⟩
  case reached => exact ⟨widest, among, by rw [measured widest among, reached]⟩
  case members => exact fun n => by rw [firsts, List.mem_eraseDups]
  case inOrder =>
    rw [firsts]
    exact pairwise_idxOf_eraseDups nodes
  case shifts =>
    intro n s member
    obtain ⟨_, listed, same⟩ := List.mem_map.mp member
    cases same
    have met := List.mem_eraseDups.mp listed
    have below := upper n met
    exact ⟨measure n, measured n met, by omega, by omega, by omega⟩
  case unmoved =>
    refine ⟨widest, List.mem_map.mpr ⟨widest, List.mem_eraseDups.mpr among, ?_⟩⟩
    rw [reached, Int.sub_self, Int.zero_ediv]

/-- What an alignment is refused for: that there is nothing to align, or the first node without a
width. -/
theorem align_eq_error_iff {fault : SceneFault} :
    align nodes = .error fault ↔ nodes = [] ∧ fault = .nothingToAlign ∨
      ∃ before n after, nodes = before ++ n :: after ∧
        (∀ m ∈ before, ∃ w, m.width = .ok w) ∧ n.width = .error fault := by
  rw [← widths_eq_error_iff []]
  cases found : widths [] nodes with
  | error other =>
    have given : nodes ≠ [] := by
      rintro rfl
      cases found
    simp [align, found, given, bind, Except.bind]
  | ok known =>
    by_cases given : nodes = []
    · subst given
      cases found
      simp [align, widths, bind, Except.bind, eq_comm]
    · have measured : ∀ n ∈ nodes, n.width = .ok (n.width.toOption.getD 0) := by
        intro n member
        obtain ⟨w, width⟩ := measured_of_widths found n member
        rw [width]
        rfl
      obtain ⟨_, aligned, _⟩ := centred_of_measured measured given
      simp [aligned, given]

namespace Centred

variable {most : Int} {alignment : List (Node × Int)}

/-- The shift of a node is the one that its width and the greatest width leave. -/
theorem mem_iff (centred : Centred nodes most alignment) {n : Node} {s : Int} :
    (n, s) ∈ alignment ↔ n ∈ nodes ∧ ∃ w, n.width = .ok w ∧ s = (most - w) / 2 := by
  have shift {s : Int} (member : (n, s) ∈ alignment) :
      ∃ w, n.width = .ok w ∧ s = (most - w) / 2 := by
    obtain ⟨w, width, _, _, half⟩ := centred.shifts n s member
    exact ⟨w, width, by omega⟩
  constructor
  · intro member
    exact ⟨(centred.members n).mp (List.mem_map_of_mem (f := Prod.fst) member), shift member⟩
  · rintro ⟨among, w, width, rfl⟩
    obtain ⟨⟨m, s⟩, member, rfl⟩ := List.mem_map.mp ((centred.members n).mpr among)
    obtain ⟨v, measured, rfl⟩ := shift member
    cases width.symm.trans measured
    exact member

/-- The greatest width depends on which nodes there are alone. -/
theorem most_le {again : List Node} {most' : Int} {alignment' : List (Node × Int)}
    (centred : Centred nodes most alignment) (centred' : Centred again most' alignment')
    (same : ∀ n, n ∈ again ↔ n ∈ nodes) : most ≤ most' := by
  obtain ⟨n, among, reached⟩ := centred.reached
  obtain ⟨w, width, below⟩ := centred'.upper n ((same n).mpr among)
  cases reached.symm.trans width
  exact below

end Centred

end Node

/-- Nodes are aligned unless there are none or one has no width, and the first node without a width
decides on the fault. The aligned nodes are centred on one axis, so the middles of any two of them
are at most half a unit apart, and every list of the same nodes moves each of them equally far. -/
theorem alignment_centres_set_of_nodes (nodes : List Node) :
    (∀ fault, Node.align nodes = .error fault ↔ nodes = [] ∧ fault = .nothingToAlign ∨
      ∃ before n after, nodes = before ++ n :: after ∧
        (∀ m ∈ before, ∃ w, m.width = .ok w) ∧ n.width = .error fault) ∧
    (nodes ≠ [] → (∀ n ∈ nodes, ∀ c, ¬(Node.bare c).Within n) →
      ∃ most alignment, Node.align nodes = .ok alignment ∧ Node.Centred nodes most alignment ∧
        (∀ a s b u, (a, s) ∈ alignment → (b, u) ∈ alignment →
          ∃ w v, a.width = .ok w ∧ b.width = .ok v ∧
            -1 ≤ (2 * s + w) - (2 * u + v) ∧ (2 * s + w) - (2 * u + v) ≤ 1) ∧
        ∀ again : List Node, (∀ n, n ∈ again ↔ n ∈ nodes) →
          ∃ alignment', Node.align again = .ok alignment' ∧
            ∀ n s, (n, s) ∈ alignment' ↔ (n, s) ∈ alignment) := by
  refine ⟨fun fault => Node.align_eq_error_iff, fun given free => ?_⟩
  have measured : ∀ n ∈ nodes, n.width = .ok (n.width.toOption.getD 0) := by
    intro n member
    obtain ⟨w, width⟩ := Node.followsParts_width.ok_iff.mpr (free n member)
    rw [width]
    rfl
  obtain ⟨most, aligned, centred⟩ := Node.centred_of_measured measured given
  refine ⟨most, _, aligned, centred, ?close, ?again⟩
  case close =>
    intro a s b u left right
    obtain ⟨w, width, _, _, half⟩ := centred.shifts a s left
    obtain ⟨v, width', _, _, half'⟩ := centred.shifts b u right
    exact ⟨w, v, width, width', by omega, by omega⟩
  case again =>
    intro again same
    have given' : again ≠ [] := by
      obtain ⟨n, member⟩ := List.exists_mem_of_ne_nil nodes given
      exact List.ne_nil_of_mem ((same n).mpr member)
    obtain ⟨most', aligned', centred'⟩ :=
      Node.centred_of_measured (fun n member => measured n ((same n).mp member)) given'
    have sameMost : most' = most :=
      Int.le_antisymm (centred'.most_le centred fun n => (same n).symm)
        (centred.most_le centred' same)
    refine ⟨_, aligned', fun n s => ?_⟩
    rw [centred.mem_iff, centred'.mem_iff, same, sameMost]

/-- A row of a negative size, given twice, a map and a grid without rows: the grid is the widest,
and the row has to be moved by half of seven units. -/
theorem alignment_of_repeated_row :
    let row := Node.linear .float (-3)
    let pairs := Node.map .float .float 2
    let wide := Node.grid .float 4 0
    [row, pairs, row, wide] ≠ [] ∧ (∀ n ∈ [row, pairs, row, wide], ∀ c, ¬(Node.bare c).Within n) ∧
      Node.align [row, pairs, row, wide] = .ok [(row, 3), (pairs, 0), (wide, 0)] ∧
      (∃ most, Node.Centred [row, pairs, row, wide] most [(row, 3), (pairs, 0), (wide, 0)]) ∧
      ∃ alignment, Node.align [wide, row, pairs] = .ok alignment ∧
        ∀ n s, (n, s) ∈ alignment ↔ (n, s) ∈ [(row, 3), (pairs, 0), (wide, 0)] := by
  intro row pairs wide
  have free : ∀ n ∈ [row, pairs, row, wide], ∀ c, ¬(Node.bare c).Within n := by
    simp only [← Node.leftmostBare?_eq_none_iff]
    decide
  have computed : Node.align [row, pairs, row, wide] = .ok [(row, 3), (pairs, 0), (wide, 0)] := by
    decide
  obtain ⟨most, alignment, aligned, centred, _, again⟩ :=
    (alignment_centres_set_of_nodes [row, pairs, row, wide]).2 (List.cons_ne_nil _ _) free
  cases computed.symm.trans aligned
  refine ⟨List.cons_ne_nil _ _, free, computed, ⟨most, centred⟩, again [wide, row, pairs] ?_⟩
  intro n
  simp only [List.mem_cons, List.not_mem_nil, or_false]
  tauto

end ArrayScene

import ArrayScene.Drawing
import Mathlib.Data.List.Basic

/-!
# Alignment of nodes

Nodes that all have a width are aligned by half of what they lack of the greatest width, and each
node stands in the alignment once, where it first appeared. So the shift of a node depends on the
nodes that are aligned and not on their order or on how often they are given.
-/
namespace ArrayScene.Node

variable {measure : Node → Int}

/-- The widths of nodes that all have one: those known before, then every other node once. -/
theorem widths_eq (known : List (Node × Int)) {nodes : List Node}
    (measured : ∀ n ∈ nodes, n.width = .ok (measure n)) :
    widths known nodes = .ok (known ++
      (nodes.filter fun n => n ∉ known.map Prod.fst).eraseDups.map fun n => (n, measure n)) := by
  induction nodes generalizing known with
  | nil => simp [widths]
  | cons n rest ih =>
    rw [List.forall_mem_cons] at measured
    have seen_iff : (known.any fun p => p.1 = n) = true ↔ n ∈ known.map Prod.fst := by
      simp [List.any_eq_true]
    simp only [widths, measured.1, bind, Except.bind]
    rw [ih _ measured.2]
    by_cases seen : n ∈ known.map Prod.fst
    · rw [if_pos (seen_iff.mpr seen), List.filter_cons_of_neg (by simpa using seen)]
    · rw [if_neg (fun found => seen (seen_iff.mp found)),
        List.filter_cons_of_pos (by simpa using seen), List.eraseDups_cons, List.filter_filter]
      have others : (fun m => decide (m ∉ (known ++ [(n, measure n)]).map Prod.fst)) =
          fun m => (!m == n) && decide (m ∉ known.map Prod.fst) := by
        funext m
        rw [Bool.eq_iff_iff]
        simp [and_comm]
      rw [others, List.map_cons, List.append_assoc, List.singleton_append]

theorem widest_mem (w : Int) (rest : List Int) : widest w rest ∈ w :: rest := by
  induction rest generalizing w with
  | nil => exact List.mem_singleton.mpr rfl
  | cons v rest ih =>
    have chosen := ih (max w v)
    rw [widest]
    rcases List.mem_cons.mp chosen with first | later
    · rcases Int.le_total w v with below | above
      · rw [first, Int.max_eq_right below]
        exact List.mem_cons_of_mem _ List.mem_cons_self
      · rw [first, Int.max_eq_left above]
        exact List.mem_cons_self
    · exact List.mem_cons_of_mem _ (List.mem_cons_of_mem _ later)

theorem le_widest {w v : Int} {rest : List Int} (member : v ∈ w :: rest) : v ≤ widest w rest := by
  induction rest generalizing w v with
  | nil => exact Int.le_of_eq (List.mem_singleton.mp member)
  | cons u rest ih =>
    rw [widest]
    have first : max w u ≤ widest (max w u) rest := ih List.mem_cons_self
    rcases List.mem_cons.mp member with same | later
    · exact Int.le_trans (same ▸ Int.le_max_left w u) first
    · rcases List.mem_cons.mp later with same | last
      · exact Int.le_trans (same ▸ Int.le_max_right w u) first
      · exact ih (List.mem_cons_of_mem _ last)

/-- The whole alignment of nodes that have a width, in terms of the greatest width. -/
theorem align_eq {nodes : List Node} (measured : ∀ n ∈ nodes, n.width = .ok (measure n))
    (given : nodes ≠ []) :
    ∃ most, (∀ n ∈ nodes, measure n ≤ most) ∧ (∃ n ∈ nodes, measure n = most) ∧
      align nodes = .ok (nodes.eraseDups.map fun n => (n, (most - measure n) / 2)) := by
  obtain ⟨first, rest, rfl⟩ := List.exists_cons_of_ne_nil given
  have all : widths [] (first :: rest) =
      .ok ((first :: rest).eraseDups.map fun n => (n, measure n)) := by
    simpa using widths_eq [] measured
  rw [List.eraseDups_cons] at all ⊢
  have listed : ∀ n, n ∈ first :: (rest.filter fun m => !m == first).eraseDups ↔
      n ∈ first :: rest := by
    intro n
    rw [← List.eraseDups_cons, List.mem_eraseDups]
  generalize (rest.filter fun m => !m == first).eraseDups = later at all listed ⊢
  refine ⟨widest (measure first) (later.map measure), ?_, ?_, ?_⟩
  · intro n member
    exact le_widest (List.mem_map_of_mem (f := measure) ((listed n).mpr member))
  · have chosen := widest_mem (measure first) (later.map measure)
    rw [← List.map_cons] at chosen
    obtain ⟨n, member, same⟩ := List.mem_map.mp chosen
    exact ⟨n, (listed n).mp member, same⟩
  · simp only [align, all, bind, Except.bind, List.map_cons, List.map_map, Function.comp_def]

theorem shiftOf_map {items : List Node} {n : Node} (f : Node → Int) (member : n ∈ items) :
    shiftOf n (items.map fun m => (m, f m)) = f n := by
  unfold shiftOf
  induction items with
  | nil => cases member
  | cons m rest ih =>
    rw [List.map_cons, List.lookup_cons]
    by_cases same : n = m
    · simp [same]
    · rw [beq_false_of_ne same]
      exact ih ((List.mem_cons.mp member).resolve_left same)

/-- Two nodes are shifted against the wider of them, also when they are the same node. -/
theorem align_pair {a b : Node} {wa wb : Int} (left : a.width = .ok wa) (right : b.width = .ok wb) :
    ∃ alignment, align [a, b] = .ok alignment ∧
      shiftOf a alignment = (max wa wb - wa) / 2 ∧ shiftOf b alignment = (max wa wb - wb) / 2 := by
  -- If both are one node their widths agree, so the choice of the first does not matter.
  let measure : Node → Int := fun n => if n = a then wa else wb
  have atLeft : measure a = wa := if_pos rfl
  have atRight : measure b = wb := by
    by_cases same : b = a
    · subst same
      exact atLeft.trans (Except.ok.inj (left.symm.trans right))
    · exact if_neg same
  have measured : ∀ n ∈ [a, b], n.width = .ok (measure n) := by
    intro n member
    rcases List.mem_pair.mp member with rfl | rfl
    · rw [left, atLeft]
    · rw [right, atRight]
  obtain ⟨most, upper, ⟨n, member, reached⟩, aligned⟩ := align_eq measured (by simp)
  have most_eq : most = max wa wb := by
    have leftLe := upper a (by simp)
    have rightLe := upper b (by simp)
    rcases List.mem_pair.mp member with rfl | rfl <;> omega
  refine ⟨_, aligned, ?_, ?_⟩
  · rw [shiftOf_map _ (List.mem_eraseDups.mpr (by simp)), atLeft, most_eq]
  · rw [shiftOf_map _ (List.mem_eraseDups.mpr (by simp)), atRight, most_eq]

end ArrayScene.Node

import ArrayScene.Node.Building

/-!
# Tiers around a node

What comes of groups of sizes around a node. The bottom is built first, and its fault is the fault
of all; around a bottom that was built the groups alone decide, from the inside out. The recursion
over the groups is followed here, and what is said of tiers elsewhere rests on the node or the
group that comes of it.
-/
namespace ArrayScene.Node

/-- Whether a group of sizes makes a tier: a row of one size or a grid of two. -/
def IsTier (group : List Int) : Prop := group.length = 1 ∨ group.length = 2

instance (group : List Int) : Decidable (IsTier group) := inferInstanceAs (Decidable (_ ∨ _))

theorem IsTier.ne_nil {group : List Int} (fits : IsTier group) : group ≠ [] := by
  rintro rfl
  simp [IsTier] at fits

/-- The last and so the innermost of the groups that make no tier. -/
def innermostBad? (groups : List (List Int)) : Option (List Int) :=
  (groups.filter fun group => ¬IsTier group).getLast?

/-- Rows and grids of the given groups around a node, the first group outermost. A group that makes
no tier is passed over. -/
def enclosedBy (below : Node) : List (List Int) → Node
  | [] => below
  | [n] :: inner => linear (below.enclosedBy inner) n
  | [w, h] :: inner => grid (below.enclosedBy inner) w h
  | _ :: inner => below.enclosedBy inner

/-- What comes of groups around a node that was built: the innermost group that makes no tier is
named, and if there is none the tiers are nested in the order of the groups. -/
def tiered (below : Node) (groups : List (List Int)) : Except SceneFault Node :=
  match innermostBad? groups with
  | some bad => .error (.tierRank bad.length)
  | none => .ok (below.enclosedBy groups)

/-- No group is bad exactly if each makes a tier. -/
theorem innermostBad?_eq_none_iff {groups : List (List Int)} :
    innermostBad? groups = none ↔ ∀ group ∈ groups, IsTier group := by
  simp [innermostBad?]

theorem innermostBad?_cons (group : List Int) (inner : List (List Int)) :
    innermostBad? (group :: inner) =
      (innermostBad? inner).or (if IsTier group then none else some group) := by
  unfold innermostBad?
  by_cases fits : IsTier group
  · simp [fits]
  · simp [fits, List.getLast?_cons]

/-- A tier is put around others once these are built. -/
theorem tiered_cons (below : Node) (group : List Int) (inner : List (List Int)) :
    (below.tiered inner >>= fun element => element.tier group) = below.tiered (group :: inner) := by
  unfold tiered
  rw [innermostBad?_cons]
  cases innermostBad? inner with
  | some bad => rfl
  | none =>
    match group with
    | [] => rfl
    | [n] => rfl
    | [w, h] => rfl
    | a :: b :: c :: rest =>
      have broken : ¬IsTier (a :: b :: c :: rest) := by simp [IsTier]
      rw [if_neg broken]
      rfl

theorem tiers_cons (bottom : Except SceneFault Node) (group : List Int) {inner : List (List Int)}
    (more : inner ≠ []) :
    tiers bottom (group :: inner) = tiers bottom inner >>= fun element => element.tier group := by
  rw [tiers]
  exact more

/-- The fault of the bottom is reported whatever the groups are. -/
theorem tiers_of_error (fault : SceneFault) {groups : List (List Int)} (given : groups ≠ []) :
    tiers (.error fault) groups = .error fault := by
  induction groups using tiers.induct with
  | case1 => exact absurd rfl given
  | case2 group => rfl
  | case3 group inner more ih =>
    rw [tiers_cons _ _ more, ih more]
    rfl

/-- Around a bottom that was built the groups alone decide. -/
theorem tiers_of_ok (below : Node) {groups : List (List Int)} (given : groups ≠ []) :
    tiers (.ok below) groups = below.tiered groups := by
  induction groups using tiers.induct with
  | case1 => exact absurd rfl given
  | case2 group => exact below.tiered_cons group []
  | case3 group inner more ih => rw [tiers_cons _ _ more, ih more, tiered_cons]

/-- Tiers that were built are around a bottom that was built, one for each group. -/
theorem exists_of_tiers_eq_ok {bottom : Except SceneFault Node} {groups : List (List Int)}
    {node : Node} (built : tiers bottom groups = .ok node) :
    ∃ below, bottom = .ok below ∧ (∀ group ∈ groups, IsTier group) ∧
      node = below.enclosedBy groups := by
  have given : groups ≠ [] := by
    rintro rfl
    cases built
  cases bottom with
  | error fault =>
    rw [tiers_of_error fault given] at built
    cases built
  | ok below =>
    rw [tiers_of_ok below given, tiered] at built
    split at built
    · cases built
    · rename_i sound
      exact ⟨below, rfl, innermostBad?_eq_none_iff.mp sound, (Except.ok.inj built).symm⟩

/-- Once the bottom is built, a group that makes no tier is all that can be wrong. -/
theorem exists_of_tiered_eq_error {below : Node} {groups : List (List Int)} {fault : SceneFault}
    (refused : below.tiered groups = .error fault) : ∃ rank, fault = .tierRank rank := by
  unfold tiered at refused
  split at refused
  · exact ⟨_, (Except.error.inj refused).symm⟩
  · cases refused

/-- A tier around a node holds the sizes of its group before those of the node. -/
theorem enclosedBy_cons {group : List Int} (fits : IsTier group) (below : Node)
    (inner : List (List Int)) :
    (below.enclosedBy (group :: inner)).core = (below.enclosedBy inner).core ∧
      (below.enclosedBy (group :: inner)).tierSizes =
        group ++ (below.enclosedBy inner).tierSizes := by
  match group with
  | [] => simp [IsTier] at fits
  | [n] => exact ⟨rfl, rfl⟩
  | [w, h] => exact ⟨rfl, rfl⟩
  | a :: b :: c :: rest => simp [IsTier] at fits

/-- Tiers keep what they are around and hold the sizes of their groups in order. -/
theorem tierSizes_enclosedBy (below : Node) {groups : List (List Int)}
    (sound : ∀ group ∈ groups, IsTier group) :
    (below.enclosedBy groups).core = below.core ∧
      (below.enclosedBy groups).tierSizes = groups.flatten ++ below.tierSizes := by
  induction groups with
  | nil => exact ⟨rfl, rfl⟩
  | cons group inner ih =>
    rw [List.forall_mem_cons] at sound
    obtain ⟨core, sizes⟩ := enclosedBy_cons sound.1 below inner
    obtain ⟨number, nested⟩ := ih sound.2
    refine ⟨core.trans number, ?_⟩
    rw [sizes, nested, List.flatten_cons, List.append_assoc]

end ArrayScene.Node

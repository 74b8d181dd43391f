import Mathlib.Data.List.Nodup
import ArrayScene.Json.Value

/-!
# Looking up fields

The value that a key has in the fields of an object, after the fields were joined, reordered or
assigned one after another: the last assignment to a key counts, and assigning leaves each key
once.
-/
namespace ArrayScene.Json

theorem get?_append (key : String) (before after : Fields) :
    get? key (before ++ after) = (get? key before).or (get? key after) :=
  List.lookup_append

theorem get?_cons (key k : String) (v : Value) (fields : Fields) :
    get? key ((k, v) :: fields) = if key = k then some v else get? key fields := by
  unfold get?
  rw [List.lookup_cons]
  cases test : key == k with
  | true => rw [if_pos (eq_of_beq test)]
  | false => rw [if_neg (ne_of_beq_false test)]

theorem get?_insert_of_ne {key k : String} (other : key ≠ k) (v : Value) (before after : Fields) :
    get? key (before ++ (k, v) :: after) = get? key (before ++ after) := by
  rw [get?_append, get?_append, get?_cons, if_neg other]

theorem mem_of_get? {key : String} {v : Value} {fields : Fields}
    (found : get? key fields = some v) : (key, v) ∈ fields := by
  induction fields with
  | nil => cases found
  | cons field rest ih =>
    obtain ⟨k, w⟩ := field
    rw [get?_cons] at found
    split at found
    · next same =>
      cases found
      exact same ▸ List.mem_cons_self
    · exact List.mem_cons_of_mem _ (ih found)

/-- Where no key is given twice, the value of a key is the one that stands beside it. -/
theorem get?_eq_some_iff_mem {fields : Fields} (distinct : (fields.map Prod.fst).Nodup)
    {key : String} {v : Value} : get? key fields = some v ↔ (key, v) ∈ fields := by
  induction fields with
  | nil => simp
  | cons field rest ih =>
    obtain ⟨k, w⟩ := field
    obtain ⟨fresh, distinct⟩ := List.nodup_cons.mp distinct
    rw [get?_cons, List.mem_cons, Prod.mk.injEq]
    split
    · next same =>
      subst same
      have absent : (key, v) ∉ rest := fun member =>
        fresh (List.mem_map.mpr ⟨(key, v), member, rfl⟩)
      rw [Option.some.injEq, or_iff_left absent]
      exact ⟨fun found => ⟨rfl, found.symm⟩, fun found => found.2.symm⟩
    · next other =>
      rw [ih distinct, or_iff_right fun found => other found.1]

/-- The order of distinct keys does not matter for the value of a key. -/
theorem get?_perm {fields fields' : Fields} (distinct : (fields.map Prod.fst).Nodup)
    (perm : fields.Perm fields') (key : String) : get? key fields' = get? key fields := by
  have distinct' : (fields'.map Prod.fst).Nodup := (perm.map Prod.fst).nodup_iff.mp distinct
  apply Option.ext
  intro v
  rw [get?_eq_some_iff_mem distinct, get?_eq_some_iff_mem distinct', perm.mem_iff]

theorem get?_eq_none_iff {key : String} {fields : Fields} :
    get? key fields = none ↔ key ∉ fields.map Prod.fst := by
  induction fields with
  | nil => simp
  | cons field rest ih =>
    obtain ⟨k, v⟩ := field
    rw [get?_cons, List.map_cons, List.mem_cons, not_or]
    split
    · next same => simp [same]
    · next other => simp [ih, other]

theorem put_ne_nil (key : String) (v : Value) (fields : Fields) : put key v fields ≠ [] := by
  intro none
  have found := get?_put_self key v fields
  rw [none] at found
  cases found

/-- The key of an assignment, wherever it comes, and the keys that were there. -/
theorem mem_keys_put {key k : String} {v : Value} {fields : Fields} :
    k ∈ (put key v fields).map Prod.fst ↔ k = key ∨ k ∈ fields.map Prod.fst := by
  induction fields with
  | nil => simp [put]
  | cons field rest ih =>
    obtain ⟨k', w⟩ := field
    unfold put
    split
    · next same => simp [same]
    · simp only [List.map_cons, List.mem_cons, ih]
      exact or_left_comm

/-- Another value under a key that is asked for changes nothing about the other keys. -/
theorem forall_mem_put_iff {key : String} {v : Value} {fields : Fields} :
    (∀ f ∈ put key v fields, f.1 = key) ↔ ∀ f ∈ fields, f.1 = key := by
  have byKeys (fields : Fields) :
      (∀ f ∈ fields, f.1 = key) ↔ ∀ k ∈ fields.map Prod.fst, k = key := by
    rw [List.forall_mem_map]
  rw [byKeys, byKeys]
  simp only [mem_keys_put, forall_eq_or_imp, true_and]

theorem nodup_put {fields : Fields} (distinct : (fields.map Prod.fst).Nodup) (key : String)
    (v : Value) : ((put key v fields).map Prod.fst).Nodup := by
  induction fields with
  | nil => simp [put]
  | cons field rest ih =>
    obtain ⟨k, w⟩ := field
    obtain ⟨fresh, others⟩ := List.nodup_cons.mp distinct
    unfold put
    split
    · exact distinct
    · next other =>
      refine List.nodup_cons.mpr ⟨fun member => ?_, ih others⟩
      rcases mem_keys_put.mp member with same | member
      · exact other same
      · exact fresh member

theorem nodup_ofAssignments (pairs : Fields) :
    ((ofAssignments pairs).map Prod.fst).Nodup := by
  have onward (fields : Fields) (distinct : (fields.map Prod.fst).Nodup) :
      ((pairs.foldl (fun fields p => put p.1 p.2 fields) fields).map Prod.fst).Nodup := by
    induction pairs generalizing fields with
    | nil => exact distinct
    | cons p rest ih => exact ih _ (nodup_put distinct p.1 p.2)
  exact onward [] List.nodup_nil

/-- Of the assignments to one key the last counts. -/
theorem get?_ofAssignments (key : String) (pairs : Fields) :
    get? key (ofAssignments pairs) = get? key pairs.reverse := by
  have onward (fields : Fields) :
      get? key (pairs.foldl (fun fields p => put p.1 p.2 fields) fields) =
        (get? key pairs.reverse).or (get? key fields) := by
    induction pairs generalizing fields with
    | nil => simp
    | cons p rest ih =>
      obtain ⟨k, v⟩ := p
      rw [List.foldl_cons, ih, List.reverse_cons, get?_append, Option.or_assoc, get?_cons]
      congr 1
      split
      · next same => rw [same, get?_put_self]; rfl
      · next other => rw [get?_put_of_ne v fields other]; rfl
  rw [ofAssignments, onward, get?_nil, Option.or_none]

theorem mem_keys_ofAssignments {key : String} {pairs : Fields} :
    key ∈ (ofAssignments pairs).map Prod.fst ↔ key ∈ pairs.map Prod.fst := by
  rw [← not_iff_not, ← get?_eq_none_iff, get?_ofAssignments, get?_eq_none_iff, List.map_reverse,
    List.mem_reverse]

/-- Fields whose keys and values are changed apart from those of one key. -/
theorem get?_map_of_same {key : String} {f : String × Value → String × Value} {fields : Fields}
    (same : ∀ p ∈ fields, ((f p).1 = key ↔ p.1 = key) ∧ (f p).2 = p.2) :
    get? key (fields.map f) = get? key fields := by
  induction fields with
  | nil => rfl
  | cons p rest ih =>
    obtain ⟨⟨first, value⟩, others⟩ := List.forall_mem_cons.mp same
    obtain ⟨k, v⟩ := p
    cases changed : f (k, v) with
    | mk k' v' =>
      rw [changed] at first value
      obtain rfl : v' = v := value
      have first : key = k' ↔ key = k := by
        rw [eq_comm, eq_comm (b := k)]
        exact first
      rw [List.map_cons, changed, get?_cons, get?_cons, ih others]
      simp only [first]

end ArrayScene.Json

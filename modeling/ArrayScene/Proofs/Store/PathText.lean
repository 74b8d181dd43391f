import ArrayScene.Store.Path
import Mathlib.Data.List.Basic

/-!
# Characters of written paths

Apart from slashes and points, the text of a path has the characters of its parts, and a stem has
those of the name. So a path that is built from parts of others brings no character of its own.
-/
namespace ArrayScene

theorem mem_intercalate_cons {c : Char} {sep part : List Char} {parts : List (List Char)} :
    c ∈ sep.intercalate (part :: parts) ↔
      c ∈ part ∨ parts ≠ [] ∧ (c ∈ sep ∨ c ∈ sep.intercalate parts) := by
  cases parts with
  | nil => simp [List.intercalate]
  | cons next rest => simp [List.intercalate]

/-- Joined texts have the characters of each of them. -/
theorem mem_intercalate_of_mem {c : Char} {sep part : List Char} {parts : List (List Char)}
    (member : part ∈ parts) (within : c ∈ part) : c ∈ sep.intercalate parts := by
  induction parts with
  | nil => cases member
  | cons first rest ih =>
    rw [mem_intercalate_cons]
    rcases List.mem_cons.mp member with rfl | later
    · exact .inl within
    · exact .inr ⟨List.ne_nil_of_mem later, .inr (ih later)⟩

/-- Apart from those between them they have no others. -/
theorem exists_of_mem_intercalate {c : Char} {sep : List Char} {parts : List (List Char)}
    (apart : c ∉ sep) (member : c ∈ sep.intercalate parts) : ∃ part ∈ parts, c ∈ part := by
  induction parts with
  | nil => cases member
  | cons first rest ih =>
    rcases mem_intercalate_cons.mp member with here | ⟨_, between | later⟩
    · exact ⟨first, List.mem_cons_self, here⟩
    · exact absurd between apart
    · obtain ⟨part, below, within⟩ := ih later
      exact ⟨part, List.mem_cons_of_mem first below, within⟩

/-- What is added to the last of joined texts stands at the end. -/
theorem intercalate_concat_append (sep last more : List Char) (parts : List (List Char)) :
    sep.intercalate (parts ++ [last ++ more]) = sep.intercalate (parts ++ [last]) ++ more := by
  induction parts with
  | nil => simp [List.intercalate]
  | cons part rest ih =>
    have step (final : List Char) : sep.intercalate (part :: (rest ++ [final])) =
        part ++ sep ++ sep.intercalate (rest ++ [final]) := by
      cases rest <;> simp [List.intercalate]
    rw [List.cons_append, List.cons_append, step, step, ih, ← List.append_assoc]

namespace Path

/-- The text of a path with its last part lengthened is the text of the path, lengthened. -/
theorem toString_lengthened {p : Path} (named : p.name ≠ "") (more : String) :
    (p.lengthened more).toString = p.toString ++ more := by
  obtain ⟨root, parts⟩ := p
  rcases List.eq_nil_or_concat parts with rfl | ⟨above, last, rfl⟩
  · exact absurd rfl named
  · rw [String.ext_iff]
    simp [lengthened, toString, parent, child, name, String.toList_intercalate,
      intercalate_concat_append]

theorem mem_toString_iff {p : Path} {c : Char} (point : c ≠ '.') (slash : c ≠ '/') :
    c ∈ p.toString.toList ↔ ∃ part ∈ p.parts, c ∈ part.toList := by
  have root : c ∉ p.root.text.toList := by
    cases p.root <;> simp [PathRoot.text, slash]
  unfold toString
  split
  · rename_i empty
    simp [empty.2, point]
  · rw [String.toList_append, List.mem_append, String.toList_intercalate, or_iff_right root]
    constructor
    · intro member
      obtain ⟨_, below, within⟩ := exists_of_mem_intercalate (by simp [slash]) member
      obtain ⟨part, listed, rfl⟩ := List.mem_map.mp below
      exact ⟨part, listed, within⟩
    · rintro ⟨part, listed, within⟩
      exact mem_intercalate_of_mem (List.mem_map_of_mem listed) within

/-- A stem is a part of its name. -/
theorem mem_of_mem_stemOf {name : String} {c : Char} (member : c ∈ (stemOf name).toList) :
    c ∈ name.toList := by
  unfold stemOf at member
  split at member
  · rename_i before after split
    split at member
    · exact member
    · rw [String.toList_ofList] at member
      unfold splitLastPoint at split
      split at split
      · rename_i point front found
        cases split
        have within := (List.dropWhile_sublist _).subset
          (found ▸ List.mem_cons_of_mem point (List.mem_reverse.mp member))
        exact List.mem_reverse.mp within
      · cases split
  · exact member

/-- A character of the last part is one of the path. -/
theorem mem_toString_of_mem_stem {p : Path} {c : Char} (point : c ≠ '.') (slash : c ≠ '/')
    (member : c ∈ p.stem.toList) : c ∈ p.toString.toList := by
  have named := mem_of_mem_stemOf member
  rw [mem_toString_iff point slash]
  unfold name at named
  cases last : p.parts.getLast? with
  | none =>
    rw [last] at named
    cases named
  | some part =>
    rw [last] at named
    exact ⟨part, List.mem_of_getLast? last, named⟩

end Path

end ArrayScene

import ArrayScene.Proofs.Json.Numerals
import ArrayScene.Proofs.Json.Strings

/-!
# JSON documents read back

The strict reader takes the text of a value back to the value: what is written of a part ends where
the reader stops reading it, and what stands between the parts is what the reader passes over. This
holds of every value without fractions whose integers can be written and whose objects name no key
twice.
-/
namespace ArrayScene.Json

/-- A value that a document can hold and give back: without numbers of double precision, with
integers of 64 bits only, and with each key once in each of its objects. -/
inductive Storable : Value → Prop
  | null : Storable .null
  | bool (b : Bool) : Storable (.bool b)
  | int {n : Int} (range : inWordRange n = true) : Storable (.int n)
  | str (s : String) : Storable (.str s)
  | arr {items : List Value} (each : ∀ v ∈ items, Storable v) : Storable (.arr items)
  | obj {fields : Fields} (once : (fields.map Prod.fst).Nodup)
      (each : ∀ p ∈ fields, Storable p.2) : Storable (.obj fields)

theorem Storable.writable {v : Value} (storable : Storable v) : writable v = true := by
  induction storable with
  | null => rfl
  | bool b => rfl
  | int range => exact range
  | str s => rfl
  | arr each ih => exact writableItems_iff.mpr ih
  | obj once each ih => exact writableFields_iff.mpr ih

theorem skipGap_newLine (depth : Nat) (cs : List Char) :
    skipGap (newLine depth ++ cs) = skipGap cs := by
  refine List.dropWhile_append_of_pos fun c member => ?_
  rcases List.mem_cons.mp member with rfl | blank
  · decide
  · rw [List.eq_of_mem_replicate blank]
    decide

theorem skipGap_cons {c : Char} (solid : isGap c = false) (cs : List Char) :
    skipGap (c :: cs) = c :: cs := by
  rw [skipGap, List.dropWhile_cons_of_neg (by simp [solid])]

theorem isGap_of_isDigit {c : Char} (digit : c.isDigit = true) : isGap c = false := by
  rw [Bool.eq_false_iff]
  intro gap
  simp only [isGap, Bool.or_eq_true, beq_iff_eq] at gap
  rcases gap with ((rfl | rfl) | rfl) | rfl <;> exact absurd digit (by decide)

/-- The text of a value begins with a character that is no blank and closes no array. -/
theorem layout_head {v : Value} (storable : Storable v) (depth : Nat) :
    ∃ c cs, layout depth v = c :: cs ∧ isGap c = false ∧ c ≠ ']' := by
  cases storable with
  | null => exact ⟨_, _, rfl, by decide, by decide⟩
  | bool b => cases b <;> exact ⟨_, _, rfl, by decide, by decide⟩
  | @int n range =>
    obtain ⟨c, cs, text, first⟩ := ofInt_head n
    refine ⟨c, cs, text, ?_, ?_⟩
    · rcases first with rfl | digit
      · decide
      · exact isGap_of_isDigit digit
    · rintro rfl
      exact absurd first (by decide)
  | str s => exact ⟨_, _, rfl, by decide, by decide⟩
  | @arr items each => cases items <;> exact ⟨_, _, rfl, by decide, by decide⟩
  | @obj fields once each => cases fields <;> exact ⟨_, _, rfl, by decide, by decide⟩

theorem skipGap_layout {v : Value} (storable : Storable v) (depth : Nat) (rest : List Char) :
    skipGap (layout depth v ++ rest) = layout depth v ++ rest := by
  obtain ⟨c, cs, text, solid, _⟩ := layout_head storable depth
  rw [text, List.cons_append, skipGap_cons solid]

/-- The reader takes the text of a value, wherever it stands, back to the value. The number of
nested calls is bounded by the length of the text. -/
def ReadsBack (v : Value) : Prop :=
  ∀ depth n rest, (layout depth v).length ≤ n → EndsValue rest →
    value .word n (layout depth v ++ rest) = some (v, rest)

/-- What follows an item or a field is a comma or the end of its line. -/
theorem endsValue_layoutItems (items : List Value) (depth outer : Nat) (rest : List Char) :
    EndsValue (layoutItems depth items ++ newLine outer ++ rest) := by
  cases items with
  | nil => exact endsValue_newLine outer rest
  | cons v vs => exact endsValue_comma _

theorem endsValue_layoutFields (fields : Fields) (depth outer : Nat) (rest : List Char) :
    EndsValue (layoutFields depth fields ++ newLine outer ++ rest) := by
  cases fields with
  | nil => exact endsValue_newLine outer rest
  | cons p ps => exact endsValue_comma _

/-- What is left of an array after its first item is read back. -/
theorem itemsTail_layoutItems {items : List Value}
    (each : ∀ v ∈ items, Storable v ∧ ReadsBack v) (depth outer n : Nat) (rest : List Char)
    (fuel : (layoutItems depth items).length < n) :
    itemsTail .word n (skipGap (layoutItems depth items ++ newLine outer ++ ']' :: rest)) =
      some (items, rest) := by
  induction items generalizing n with
  | nil =>
    obtain ⟨n, rfl⟩ : ∃ m, n = m + 1 := ⟨n - 1, by omega⟩
    rw [layoutItems, List.nil_append, skipGap_newLine, skipGap_cons (by decide), itemsTail]
  | cons v vs ih =>
    rw [List.forall_mem_cons] at each
    simp only [layoutItems, List.cons_append, List.length_cons, List.length_append] at fuel
    obtain ⟨n, rfl⟩ : ∃ m, n = m + 1 := ⟨n - 1, by omega⟩
    have first : value .word n (layout depth v ++
        (layoutItems depth vs ++ newLine outer ++ ']' :: rest)) = _ :=
      each.1.2 depth n _ (by omega) (endsValue_layoutItems vs depth outer _)
    have later := ih each.2 n (by omega)
    simp only [layoutItems, List.cons_append, List.append_assoc] at first later ⊢
    rw [skipGap_cons (by decide), itemsTail, skipGap_newLine, skipGap_layout each.1.1, first]
    simp only [later, Option.map_some]

/-- A key and its value are read back. -/
theorem field_layout {p : String × Value} (storable : Storable p.2) (readsBack : ReadsBack p.2)
    (depth n : Nat) (rest : List Char) (ends : EndsValue rest)
    (fuel : (layout depth p.2).length < n) :
    field .word n (quoted p.1 ++ ':' :: ' ' :: layout depth p.2 ++ rest) = some (p, rest) := by
  obtain ⟨n, rfl⟩ : ∃ m, n = m + 1 := ⟨n - 1, by omega⟩
  have behind : skipGap (' ' :: (layout depth p.2 ++ rest)) = layout depth p.2 ++ rest := by
    rw [skipGap, List.dropWhile_cons_of_pos (by decide)]
    exact skipGap_layout storable depth rest
  simp only [quoted, List.cons_append, List.append_assoc, List.nil_append]
  rw [field, stringBody_escaped]
  simp only [skipGap_cons (show isGap ':' = false by decide), behind,
    readsBack depth n rest (by omega) ends, Option.map_some, String.ofList_toList]

/-- What is left of an object after its first field is read back. -/
theorem fieldsTail_layoutFields {fields : Fields}
    (each : ∀ p ∈ fields, Storable p.2 ∧ ReadsBack p.2) (depth outer n : Nat) (rest : List Char)
    (fuel : (layoutFields depth fields).length < n) :
    fieldsTail .word n (skipGap (layoutFields depth fields ++ newLine outer ++ '}' :: rest)) =
      some (fields, rest) := by
  induction fields generalizing n with
  | nil =>
    obtain ⟨n, rfl⟩ : ∃ m, n = m + 1 := ⟨n - 1, by omega⟩
    rw [layoutFields, List.nil_append, skipGap_newLine, skipGap_cons (by decide), fieldsTail]
  | cons p ps ih =>
    obtain ⟨k, v⟩ := p
    rw [List.forall_mem_cons] at each
    simp only [layoutFields, List.cons_append, List.length_cons, List.length_append] at fuel
    obtain ⟨n, rfl⟩ : ∃ m, n = m + 1 := ⟨n - 1, by omega⟩
    have first := field_layout (p := (k, v)) each.1.1 each.1.2 depth n
      (layoutFields depth ps ++ newLine outer ++ '}' :: rest)
      (endsValue_layoutFields ps depth outer _) (by simp only; omega)
    have later := ih each.2 n (by omega)
    have quote (cs : List Char) : skipGap (quoted k ++ cs) = quoted k ++ cs :=
      skipGap_cons (by decide) _
    simp only [layoutFields, List.cons_append, List.append_assoc] at first later ⊢
    rw [skipGap_cons (by decide), fieldsTail, skipGap_newLine, quote, first]
    simp only [later, Option.map_some]

theorem put_of_not_mem {key : String} (v : Value) {fields : Fields}
    (absent : key ∉ fields.map Prod.fst) : put key v fields = fields ++ [(key, v)] := by
  induction fields with
  | nil => rfl
  | cons p rest ih =>
    rw [List.map_cons, List.mem_cons, not_or] at absent
    rw [put, if_neg (Ne.symm absent.1), ih absent.2, List.cons_append]

/-- Assigning fields of different keys one after the other gives the fields in their order. -/
theorem foldl_put_of_nodup (known : Fields) {fields : Fields}
    (once : ((known ++ fields).map Prod.fst).Nodup) :
    fields.foldl (fun fields p => put p.1 p.2 fields) known = known ++ fields := by
  induction fields generalizing known with
  | nil => rw [List.foldl_nil, List.append_nil]
  | cons p rest ih =>
    have absent : p.1 ∉ known.map Prod.fst := by
      rw [List.map_append, List.map_cons] at once
      intro member
      exact (List.nodup_append.mp once).2.2 _ member _ List.mem_cons_self rfl
    rw [List.foldl_cons, put_of_not_mem p.2 absent, ih (known ++ [p]) (by simpa using once),
      List.append_assoc, List.singleton_append]

theorem ofAssignments_of_nodup {fields : Fields} (once : (fields.map Prod.fst).Nodup) :
    ofAssignments fields = fields :=
  foldl_put_of_nodup [] once

/-- A text that begins with a minus sign or a digit is read as a numeral. -/
theorem value_of_numeral {c : Char} (first : c = '-' ∨ c.isDigit = true) (range : IntegerRange)
    (n : Nat) (cs : List Char) : value range (n + 1) (c :: cs) = number range (c :: cs) := by
  rw [value]
  all_goals
    intro _ same
    cases same
    exact absurd first (by decide)

theorem exists_succ_of_layout_le {v : Value} (storable : Storable v) {depth n : Nat}
    (fuel : (layout depth v).length ≤ n) : ∃ m, n = m + 1 := by
  obtain ⟨c, cs, text, _⟩ := layout_head storable depth
  rw [text, List.length_cons] at fuel
  exact ⟨n - 1, by omega⟩

/-- The line end in front of a value is passed over, and nothing of the value is. -/
theorem skipGap_opened {v : Value} (storable : Storable v) (depth : Nat) (rest : List Char) :
    skipGap (newLine depth ++ (layout depth v ++ rest)) = layout depth v ++ rest := by
  rw [skipGap_newLine, skipGap_layout storable]

theorem readsBack_arr {items : List Value} (each : ∀ v ∈ items, Storable v ∧ ReadsBack v) :
    ReadsBack (.arr items) := by
  intro depth n rest fuel ends
  obtain ⟨n, rfl⟩ := exists_succ_of_layout_le (.arr fun v member => (each v member).1) fuel
  cases items with
  | nil => rfl
  | cons v vs =>
    rw [List.forall_mem_cons] at each
    simp only [layout, List.cons_append, List.length_cons, List.length_append] at fuel
    obtain ⟨c, cs, text, _, notClosing⟩ := layout_head each.1.1 (depth + 1)
    have first : value .word n (layout (depth + 1) v ++
        (layoutItems (depth + 1) vs ++ newLine depth ++ ']' :: rest)) = _ :=
      each.1.2 (depth + 1) n _ (by omega) (endsValue_layoutItems vs (depth + 1) depth _)
    have later := itemsTail_layoutItems each.2 (depth + 1) depth n rest (by omega)
    simp only [layout, List.cons_append, List.append_assoc, List.nil_append] at first later ⊢
    rw [value, skipGap_opened each.1.1]
    split
    · rename_i closing
      rw [text, List.cons_append, List.cons.injEq] at closing
      exact absurd closing.1 notClosing
    · rw [first]
      simp only [later, Option.map_some]

theorem readsBack_obj {fields : Fields} (once : (fields.map Prod.fst).Nodup)
    (each : ∀ p ∈ fields, Storable p.2 ∧ ReadsBack p.2) : ReadsBack (.obj fields) := by
  intro depth n rest fuel ends
  obtain ⟨n, rfl⟩ :=
    exists_succ_of_layout_le (.obj once fun p member => (each p member).1) fuel
  cases fields with
  | nil => rfl
  | cons p ps =>
    obtain ⟨k, v⟩ := p
    rw [List.forall_mem_cons] at each
    simp only [layout, List.cons_append, List.length_cons, List.length_append] at fuel
    have first := field_layout (p := (k, v)) each.1.1 each.1.2 (depth + 1) n
      (layoutFields (depth + 1) ps ++ newLine depth ++ '}' :: rest)
      (endsValue_layoutFields ps (depth + 1) depth _) (by simp only; omega)
    have later := fieldsTail_layoutFields each.2 (depth + 1) depth n rest (by omega)
    have quote (cs : List Char) : skipGap (quoted k ++ cs) = quoted k ++ cs :=
      skipGap_cons (by decide) _
    simp only [layout, List.cons_append, List.append_assoc, List.nil_append] at first later ⊢
    rw [value, skipGap_newLine, quote]
    split
    · rename_i closing
      rw [quoted, List.cons_append, List.cons_append, List.cons.injEq] at closing
      exact absurd closing.1 (by decide)
    · rw [first]
      simp only [later, Option.map_some, ofAssignments_of_nodup once]

/-- Every value that can be stored is read back. -/
theorem readsBack_of_storable {v : Value} (storable : Storable v) : ReadsBack v := by
  induction storable with
  | null =>
    intro depth n rest fuel ends
    obtain ⟨n, rfl⟩ := exists_succ_of_layout_le .null fuel
    rfl
  | bool b =>
    intro depth n rest fuel ends
    obtain ⟨n, rfl⟩ := exists_succ_of_layout_le (.bool b) fuel
    cases b <;> rfl
  | @int i range =>
    intro depth n rest fuel ends
    obtain ⟨n, rfl⟩ := exists_succ_of_layout_le (.int range) fuel
    obtain ⟨c, cs, text, first⟩ := ofInt_head i
    have read := number_ofInt range ends
    rw [layout]
    rw [text] at read ⊢
    rw [List.cons_append, value_of_numeral first]
    exact read
  | str s =>
    intro depth n rest fuel ends
    obtain ⟨n, rfl⟩ := exists_succ_of_layout_le (.str s) fuel
    simp only [layout, quoted, List.cons_append, List.append_assoc, List.nil_append]
    rw [value, stringBody_escaped]
    simp only [Option.map_some, String.ofList_toList]
  | arr each ih => exact readsBack_arr fun v member => ⟨each v member, ih v member⟩
  | obj once each ih => exact readsBack_obj once fun p member => ⟨each p member, ih p member⟩

/-- The text of a value that can be stored is read as that value. -/
theorem read_layout {v : Value} (storable : Storable v) :
    read .word (String.ofList (layout 0 v)) = some v := by
  have parsed := readsBack_of_storable storable 0 (2 * (layout 0 v).length + 2) [] (by omega)
    endsValue_nil
  have opened := skipGap_layout storable 0 []
  rw [List.append_nil] at parsed opened
  rw [read, String.toList_ofList]
  simp only [opened, parsed]
  rfl

theorem fromUTF8?_toUTF8 (s : String) : String.fromUTF8? s.toUTF8 = some s :=
  dif_pos s.isValidUTF8

/-- The content of a file with the text of a value is read as that value. -/
theorem readBytes_layout {v : Value} (storable : Storable v) :
    readBytes (String.ofList (layout 0 v)).toUTF8 = some v := by
  rw [readBytes, fromUTF8?_toUTF8, Option.bind_some, read_layout storable]

/-- The document that is written for a value is read back as that value. -/
theorem readBytes_of_write {v : Value} {text : String} (storable : Storable v)
    (written : write v = some text) : readBytes text.toUTF8 = some v := by
  rw [write, if_pos storable.writable, Option.some.injEq] at written
  rw [← written, readBytes_layout storable]

end ArrayScene.Json

import ArrayScene.Proofs.Json.Fields
import ArrayScene.Proofs.Source.Description

/-!
# Requests that say the same

What an object is read as says which of its keys are looked at. A value is rearranged by adding or
removing keys that are not looked at and by giving the keys in another order, in any object at any
depth. The main theorem: an accepted request is valid, its full form is accepted as the same
request, and so is every rearrangement of the value that it was read from.
-/
namespace ArrayScene

namespace Json

/-- The value is an object that gives something else than null under the key. -/
def Given (key : String) (v : Value) : Prop :=
  ∃ fields x, v = .obj fields ∧ get? key fields = some x ∧ x ≠ .null

/-- The value has values within it. -/
def Container : Value → Prop
  | .arr _ | .obj _ => True
  | _ => False

end Json

/-- What a value is read as: a part of a request, or nothing. -/
inductive Role where
  | request
  | operation
  | function
  | type
  | unread
  deriving DecidableEq, Repr

namespace Role

/-- The keys that are looked at in an object. Those of a source type depend on its kind. -/
def keys : Role → Json.Fields → List String
  | request, _ => ["name", "type", "operation"]
  | operation, _ => ["kind", "function", "size"]
  | function, _ => ["kind", "input_type", "output_type"]
  | type, fields =>
    match Json.get? "kind" fields with
    | some (.str "array") => ["kind", "element", "size"]
    | some (.str "function") => ["kind", "input_type", "output_type"]
    | _ => ["kind"]
  | unread, _ => []

/-- What the value of a key that is looked at is read as. -/
def ofKey : String → Role
  | "type" | "element" | "input_type" | "output_type" => type
  | "operation" => operation
  | "function" => function
  | _ => unread

/-- What the value of a key is read as within an object. -/
def within (role : Role) (fields : Json.Fields) (key : String) : Role :=
  if key ∈ role.keys fields then ofKey key else unread

end Role

/-- A value is rearranged into another one: keys that are not looked at are added or removed, or
distinct keys are given in another order, any number of times and at any depth. -/
inductive Rearranged : Role → Json.Value → Json.Value → Prop
  | refl {role : Role} (v : Json.Value) : Rearranged role v v
  | trans {role : Role} {u v w : Json.Value} (first : Rearranged role u v)
      (second : Rearranged role v w) : Rearranged role u w
  | reorder {role : Role} {fields fields' : Json.Fields} (distinct : (fields.map Prod.fst).Nodup)
      (perm : fields.Perm fields') : Rearranged role (.obj fields) (.obj fields')
  | add {role : Role} {before after : Json.Fields} {key : String} {v : Json.Value}
      (unknown : key ∉ role.keys (before ++ after)) :
      Rearranged role (.obj (before ++ after)) (.obj (before ++ (key, v) :: after))
  | remove {role : Role} {before after : Json.Fields} {key : String} {v : Json.Value}
      (unknown : key ∉ role.keys (before ++ (key, v) :: after)) :
      Rearranged role (.obj (before ++ (key, v) :: after)) (.obj (before ++ after))
  | field {role : Role} {before after : Json.Fields} {key : String} {v w : Json.Value}
      (inside : Rearranged (role.within (before ++ (key, v) :: after) key) v w) :
      Rearranged role (.obj (before ++ (key, v) :: after)) (.obj (before ++ (key, w) :: after))
  | item {role : Role} {before after : List Json.Value} {v w : Json.Value}
      (inside : Rearranged .unread v w) :
      Rearranged role (.arr (before ++ v :: after)) (.arr (before ++ w :: after))

namespace Role

/-- What a value describes in a role is described by another value too. -/
def Preserves : Role → Json.Value → Json.Value → Prop
  | request, v, w => ∀ r, DescribesRequest v r → DescribesRequest w r
  | operation, v, w => ∀ m, DescribesOperation v m → DescribesOperation w m
  | function, v, w => ∀ types, DescribesFunction v types → DescribesFunction w types
  | type, v, w => ∀ t, DescribesType v t → DescribesType w t
  | unread, _, _ => True

/-- A value is as good as another in a role: a plain value is the same, and a container describes
at least what the other does. -/
def Keeps (role : Role) (v w : Json.Value) : Prop :=
  v = w ∨ (Json.Container v ∧ role.Preserves v w)

/-- Each key that is looked at keeps its value, or stays absent. -/
def KeepsFields (role : Role) (fields fields' : Json.Fields) : Prop :=
  ∀ key ∈ role.keys fields,
    Option.Rel (ofKey key).Keeps (Json.get? key fields) (Json.get? key fields')

theorem Preserves.trans {role : Role} {u v w : Json.Value} (first : role.Preserves u v)
    (second : role.Preserves v w) : role.Preserves u w := by
  cases role with
  | unread => trivial
  | _ => exact fun x described => second x (first x described)

theorem Keeps.trans {role : Role} {u v w : Json.Value} (first : role.Keeps u v)
    (second : role.Keeps v w) : role.Keeps u w := by
  rcases first with rfl | ⟨container, first⟩
  · exact second
  · rcases second with rfl | ⟨_, second⟩
    · exact .inr ⟨container, first⟩
    · exact .inr ⟨container, first.trans second⟩

theorem Keeps.preserves {role : Role} {v w : Json.Value} (keeps : role.Keeps v w) :
    role.Preserves v w := by
  rcases keeps with rfl | ⟨_, preserves⟩
  · cases role with
    | unread => trivial
    | _ => exact fun _ described => described
  · exact preserves

theorem keepsFields_of_get? {role : Role} {fields fields' : Json.Fields}
    (same : ∀ key ∈ role.keys fields, Json.get? key fields' = Json.get? key fields) :
    role.KeepsFields fields fields' := by
  intro key known
  rw [same key known]
  cases Json.get? key fields with
  | none => exact .none
  | some v => exact .some (.inl rfl)

namespace KeepsFields

variable {role : Role} {fields fields' : Json.Fields} {key : String}

theorem none (keeps : role.KeepsFields fields fields') (known : key ∈ role.keys fields)
    (absent : Json.get? key fields = .none) : Json.get? key fields' = .none := by
  have related := keeps key known
  rw [absent] at related
  generalize Json.get? key fields' = found at related
  cases related
  rfl

theorem some (keeps : role.KeepsFields fields fields') (known : key ∈ role.keys fields)
    {v : Json.Value} (found : Json.get? key fields = .some v) :
    ∃ w, Json.get? key fields' = .some w ∧ (ofKey key).Keeps v w := by
  have related := keeps key known
  rw [found] at related
  generalize Json.get? key fields' = found' at related
  cases related with
  | some kept => exact ⟨_, rfl, kept⟩

/-- A plain value stays as it is. -/
theorem plain (keeps : role.KeepsFields fields fields') (known : key ∈ role.keys fields)
    {v : Json.Value} (found : Json.get? key fields = .some v) (plain : ¬Json.Container v) :
    Json.get? key fields' = .some v := by
  obtain ⟨w, found, rfl | ⟨container, _⟩⟩ := keeps.some known found
  · exact found
  · exact absurd container plain

theorem implied (keeps : role.KeepsFields fields fields') (known : "kind" ∈ role.keys fields)
    {word : String} (kind : Json.Implied word fields) : Json.Implied word fields' :=
  kind.imp (keeps.none known) fun found => keeps.plain known found id

theorem absent (keeps : role.KeepsFields fields fields') (known : key ∈ role.keys fields)
    (absent : Json.Absent key fields) : Json.Absent key fields' :=
  absent.imp (keeps.none known) fun found => keeps.plain known found id

theorem name (keeps : role.KeepsFields fields fields') (known : "name" ∈ role.keys fields)
    {name : String} (named : DescribesName fields name) : DescribesName fields' name :=
  named.imp (And.imp_left (keeps.none known))
    (And.imp_left fun found => keeps.plain known found id)

theorem size (keeps : role.KeepsFields fields fields') (known : "size" ∈ role.keys fields)
    {v : Json.Value} {n : Int} (sized : Json.get? "size" fields = .some v)
    (count : Validation.DescribesSize v n) : Json.get? "size" fields' = .some v := by
  apply keeps.plain known sized
  intro container
  obtain ⟨read, _⟩ := count
  cases v with
  | arr | obj => cases read
  | _ => exact container

end KeepsFields

/-- An object whose known keys are kept describes at least what it did. -/
theorem preserves_of_keepsFields {role : Role} {fields fields' : Json.Fields}
    (keeps : role.KeepsFields fields fields') : role.Preserves (.obj fields) (.obj fields') := by
  cases role with
  | unread => trivial
  | type =>
    intro t described
    cases described with
    | float kind =>
      have known : "kind" ∈ type.keys fields := by simp [keys, kind]
      exact .float (keeps.plain known kind id)
    | array kind inside described sized count =>
      have known : type.keys fields = ["kind", "element", "size"] := by simp [keys, kind]
      obtain ⟨w, inside, kept⟩ := keeps.some (by simp [known]) inside
      exact .array (keeps.plain (by simp [known]) kind id) inside (kept.preserves _ described)
        (keeps.size (by simp [known]) sized count) count
    | function kind source taken target given =>
      have known : type.keys fields = ["kind", "input_type", "output_type"] := by
        simp [keys, kind]
      obtain ⟨_, source, input⟩ := keeps.some (by simp [known]) source
      obtain ⟨_, target, output⟩ := keeps.some (by simp [known]) target
      exact .function (keeps.plain (by simp [known]) kind id) source (input.preserves _ taken)
        target (output.preserves _ given)
  | function =>
    rintro _ ⟨kind, source, taken, target, given⟩
    obtain ⟨_, source, input⟩ := keeps.some (by simp [keys]) source
    obtain ⟨_, target, output⟩ := keeps.some (by simp [keys]) target
    exact .intro (keeps.implied (by simp [keys]) kind) source (input.preserves _ taken) target
      (output.preserves _ given)
  | operation =>
    rintro _ ⟨kind, mapped, types, sized, count⟩
    obtain ⟨_, mapped, kept⟩ := keeps.some (by simp [keys]) mapped
    exact .intro (keeps.implied (by simp [keys]) kind) mapped (kept.preserves _ types)
      (keeps.size (by simp [keys]) sized count) count
  | request =>
    intro r described
    cases described with
    | type named subject described other =>
      obtain ⟨_, subject, kept⟩ := keeps.some (by simp [keys]) subject
      exact .type (keeps.name (by simp [keys]) named) subject (kept.preserves _ described)
        (keeps.absent (by simp [keys]) other)
    | operation named subject described other =>
      obtain ⟨_, subject, kept⟩ := keeps.some (by simp [keys]) subject
      exact .operation (keeps.name (by simp [keys]) named) subject (kept.preserves _ described)
        (keeps.absent (by simp [keys]) other)

/-- Nothing that is read is an array. -/
theorem preserves_arr (role : Role) (items : List Json.Value) (w : Json.Value) :
    role.Preserves (.arr items) w := by
  cases role with
  | unread => trivial
  | _ => exact nofun

/-- A value that changes within an object keeps the fields of the object. -/
theorem keepsFields_of_within {role : Role} {before after : Json.Fields} {key : String}
    {v w : Json.Value} (keeps : (role.within (before ++ (key, v) :: after) key).Keeps v w) :
    role.KeepsFields (before ++ (key, v) :: after) (before ++ (key, w) :: after) := by
  intro k known
  rw [Json.get?_append, Json.get?_append, Json.get?_cons, Json.get?_cons]
  cases Json.get? k before with
  | some x => exact .some (.inl rfl)
  | none =>
    by_cases same : k = key
    · subst same
      rw [within, if_pos known] at keeps
      rw [if_pos rfl, if_pos rfl]
      exact .some keeps
    · rw [if_neg same, if_neg same]
      cases Json.get? k after with
      | none => exact .none
      | some x => exact .some (.inl rfl)

end Role

/-- A rearranged value is as good as the one that it was made from. -/
theorem Rearranged.keeps {role : Role} {v w : Json.Value} (rearranged : Rearranged role v w) :
    role.Keeps v w := by
  have object {role : Role} {fields fields' : Json.Fields}
      (keeps : role.KeepsFields fields fields') : role.Keeps (.obj fields) (.obj fields') :=
    .inr ⟨trivial, Role.preserves_of_keepsFields keeps⟩
  induction rearranged with
  | refl v => exact .inl rfl
  | trans _ _ first second => exact first.trans second
  | reorder distinct perm =>
    exact object (Role.keepsFields_of_get? fun key _ => Json.get?_perm distinct perm key)
  | add unknown =>
    refine object (Role.keepsFields_of_get? fun key known => ?_)
    exact Json.get?_insert_of_ne (ne_of_mem_of_not_mem known unknown) _ _ _
  | remove unknown =>
    refine object (Role.keepsFields_of_get? fun key known => ?_)
    exact (Json.get?_insert_of_ne (ne_of_mem_of_not_mem known unknown) _ _ _).symm
  | field _ ih => exact object (Role.keepsFields_of_within ih)
  | item _ _ => exact .inr ⟨trivial, Role.preserves_arr _ _ _⟩

/-- A request is given a type or an operation, as it describes the one or the other. -/
theorem given_of_describesRequest {v : Json.Value} {r : Request}
    (described : DescribesRequest v r) :
    (Json.Given "type" v ↔ r.subject.type?.isSome) ∧
      (Json.Given "operation" v ↔ r.subject.operation?.isSome) := by
  have missing {key : String} {fields : Json.Fields} (absent : Json.Absent key fields) :
      ¬Json.Given key (.obj fields) := by
    rintro ⟨_, x, same, found, there⟩
    cases same
    rcases absent with none | null
    · rw [none] at found
      cases found
    · exact there (Option.some.inj (found.symm.trans null))
  cases described with
  | type _ subject described other =>
    have there : Json.Given "type" (.obj _) := ⟨_, _, rfl, subject, by rintro rfl; cases described⟩
    exact ⟨iff_of_true there rfl, iff_of_false (missing other) nofun⟩
  | operation _ subject described other =>
    have there : Json.Given "operation" (.obj _) :=
      ⟨_, _, rfl, subject, by rintro rfl; cases described⟩
    exact ⟨iff_of_false (missing other) nofun, iff_of_true there rfl⟩

theorem Subject.type?_isSome_iff (s : Subject) : s.type?.isSome ↔ ¬s.operation?.isSome := by
  cases s <;> simp [Subject.type?, Subject.operation?]

section

variable {fields fields' : Json.Fields}

theorem describesFunction_of_same {types : SourceType × SourceType}
    (implied : Json.Implied "function" fields')
    (same : ∀ key, key ≠ "kind" → Json.get? key fields' = Json.get? key fields)
    (described : DescribesFunction (.obj fields) types) :
    DescribesFunction (.obj fields') types := by
  obtain ⟨_, source, taken, target, given⟩ := described
  rw [← same _ (by decide)] at source target
  exact .intro implied source taken target given

theorem describesOperation_of_same {m : MapOperation} (implied : Json.Implied "map" fields')
    (same : ∀ key, key ≠ "kind" → Json.get? key fields' = Json.get? key fields)
    (described : DescribesOperation (.obj fields) m) : DescribesOperation (.obj fields') m := by
  obtain ⟨_, mapped, types, sized, count⟩ := described
  rw [← same _ (by decide)] at mapped sized
  exact .intro implied mapped types sized count

/-- A function that leaves its kind out is read as if it gave it. -/
theorem readFunction_put_kind {place : List String} {types : SourceType × SourceType}
    (absent : Json.get? "kind" fields = none) :
    readFunction place (.obj (Json.put "kind" (.str "function") fields)) = .ok types ↔
      readFunction place (.obj fields) = .ok types := by
  rw [readFunction_eq_ok_iff, readFunction_eq_ok_iff]
  have same (key : String) (other : key ≠ "kind") :=
    Json.get?_put_of_ne (.str "function") fields other
  constructor
  · exact describesFunction_of_same (.inl absent) fun key other => (same key other).symm
  · exact describesFunction_of_same (.inr (Json.get?_put_self _ _ _)) same

/-- An operation that leaves its kind out is read as if it gave it. -/
theorem readOperation_put_kind {place : List String} {m : MapOperation}
    (absent : Json.get? "kind" fields = none) :
    readOperation place (.obj (Json.put "kind" (.str "map") fields)) = .ok m ↔
      readOperation place (.obj fields) = .ok m := by
  rw [readOperation_eq_ok_iff, readOperation_eq_ok_iff]
  have same (key : String) (other : key ≠ "kind") := Json.get?_put_of_ne (.str "map") fields other
  constructor
  · exact describesOperation_of_same (.inl absent) fun key other => (same key other).symm
  · exact describesOperation_of_same (.inr (Json.get?_put_self _ _ _)) same

/-- A source type gives its kind. -/
theorem get?_kind_of_readType {place : List String} {t : SourceType}
    (read : readType place (.obj fields) = .ok t) : Json.get? "kind" fields ≠ none := by
  have described := readType_eq_ok_iff.mp read
  cases described with
  | float kind | array kind | function kind => rw [kind]; nofun

end

/-- A value that is accepted as a request gives exactly one of a type and an operation, and the
request has a name and a positive size for each array at every depth. The full form of the request
is accepted as the same request, and so is the value with its keys in another order and with other
unknown keys, at every depth. A source type has to give its kind; an operation and its function
are read alike with and without theirs. -/
theorem accepted_request_stable {v : Json.Value} {r : Request}
    (accepted : Request.ofJson v = .ok r) :
    r.Valid ∧
      (Json.Given "type" v ↔ ¬Json.Given "operation" v) ∧
      (r.subject.type?.isSome ↔ Json.Given "type" v) ∧
      (r.subject.operation?.isSome ↔ Json.Given "operation" v) ∧
      Request.ofJson r.toJson = .ok r ∧
      (∀ w, Rearranged .request v w → Request.ofJson w = .ok r) ∧
      (∀ place fields t, readType place (.obj fields) = .ok t →
        Json.get? "kind" fields ≠ none) ∧
      (∀ place fields, Json.get? "kind" fields = none →
        (∀ m, readOperation place (.obj (Json.put "kind" (.str "map") fields)) = .ok m ↔
          readOperation place (.obj fields) = .ok m) ∧
        ∀ types, readFunction place (.obj (Json.put "kind" (.str "function") fields)) = .ok types ↔
          readFunction place (.obj fields) = .ok types) := by
  have described := Request.ofJson_eq_ok_iff.mp accepted
  have valid := valid_of_describesRequest described
  obtain ⟨type, operation⟩ := given_of_describesRequest described
  refine ⟨valid, ?_, type.symm, operation.symm, ?_, ?_, ?_, ?_⟩
  · rw [type, operation]
    exact r.subject.type?_isSome_iff
  · exact Request.ofJson_eq_ok_iff.mpr (Request.describes_toJson valid)
  · intro w rearranged
    exact Request.ofJson_eq_ok_iff.mpr (rearranged.keeps.preserves r described)
  · exact fun _ _ _ => get?_kind_of_readType
  · exact fun _ _ absent =>
      ⟨fun _ => readOperation_put_kind absent, fun _ => readFunction_put_kind absent⟩

/-- A row whose size is written as a decimal numeral, with unknown keys at several depths, and the
same row without them and in another order. -/
theorem accepted_request_stable_row :
    let size : String × Json.Value := ("size", .str " +3.0 ")
    let kind : String × Json.Value := ("kind", .str "array")
    let element (more : Json.Fields) : String × Json.Value :=
      ("element", .obj (("kind", .str "float") :: more))
    let loose : Json.Value := .obj [("note", .obj [("type", .null)]),
      ("type", .obj [size, kind, element [("element", .bool true)]]), ("operation", .null)]
    let neat : Json.Value := .obj [("type", .obj [kind, element [], size]), ("operation", .null)]
    let row : Request := ⟨"scene", .type (.array .float 3)⟩
    Request.ofJson loose = .ok row ∧ Rearranged .request loose neat ∧
      Request.ofJson neat = .ok row ∧ row.Valid := by
  intro size kind element loose neat row
  have accepted : Request.ofJson loose = .ok row := by rfl
  have bare : Rearranged .type (element [("element", .bool true)]).2 (element []).2 :=
    @Rearranged.remove .type [("kind", .str "float")] [] "element" _ (by decide)
  have inside : Rearranged .type (.obj [size, kind, element [("element", .bool true)]])
      (.obj [kind, element [], size]) := by
    apply Rearranged.trans (@Rearranged.field .type [size, kind] [] "element" _ _ bare)
    exact .reorder (by decide) (List.perm_append_singleton size [kind, element []]).symm
  have rearranged : Rearranged .request loose neat := by
    apply Rearranged.trans (@Rearranged.remove .request [] _ "note" _ (by decide))
    exact @Rearranged.field .request [] [("operation", .null)] "type" _ _ inside
  obtain ⟨valid, _, _, _, _, stable, _⟩ := accepted_request_stable accepted
  exact ⟨accepted, rearranged, stable neat rearranged, valid⟩

end ArrayScene

import ArrayScene.Decimal.Binary64

/-!
# JSON values

The values of the documents that scenes are read from and written to. An object is a list of
fields in order; `put` replaces the value of a key where it stands or adds the key at the end, so
a key given twice keeps its first place and its last value.
-/
namespace ArrayScene.Json

inductive Value where
  | null
  | bool (b : Bool)
  | int (n : Int)
  | real (x : Binary64)
  | str (s : String)
  | arr (items : List Value)
  | obj (fields : List (String × Value))
  deriving Repr, Inhabited

/-- The fields of an object, in order. -/
abbrev Fields := List (String × Value)

/-- The fields with a key set: in its place if the key is there, at the end if it is not. -/
def put (key : String) (value : Value) : Fields → Fields
  | [] => [(key, value)]
  | (k, v) :: rest => if k = key then (k, value) :: rest else (k, v) :: put key value rest

/-- The fields that a sequence of assignments leaves. -/
def ofAssignments (pairs : List (String × Value)) : Fields :=
  pairs.foldl (fun fields p => put p.1 p.2 fields) []

/-- The value of a key. -/
def get? (key : String) (fields : Fields) : Option Value := fields.lookup key

/-- The fields with a key set only where it is absent. -/
def putNew (key : String) (value : Value) (fields : Fields) : Fields :=
  match get? key fields with
  | some _ => fields
  | none => fields ++ [(key, value)]

@[simp] theorem get?_nil (key : String) : get? key [] = none := rfl

theorem get?_put_self (key : String) (value : Value) (fields : Fields) :
    get? key (put key value fields) = some value := by
  induction fields with
  | nil => simp [get?, put]
  | cons p rest ih =>
    obtain ⟨k, v⟩ := p
    by_cases h : k = key
    · subst h; simp [get?, put]
    · have h' : (key == k) = false := by simpa using Ne.symm h
      simpa [get?, put, h, List.lookup_cons, h'] using ih

theorem get?_put_of_ne {key other : String} (value : Value) (fields : Fields)
    (hne : other ≠ key) : get? other (put key value fields) = get? other fields := by
  induction fields with
  | nil =>
    have h' : (other == key) = false := by simpa using hne
    simp [get?, put, List.lookup_cons, h']
  | cons p rest ih =>
    obtain ⟨k, v⟩ := p
    by_cases h : k = key
    · subst h
      have h' : (other == k) = false := by simpa using hne
      simp [get?, put, List.lookup_cons, h']
    · by_cases ho : other = k
      · subst ho; simp [get?, put, h]
      · have h' : (other == k) = false := by simpa using ho
        simpa [get?, put, h, List.lookup_cons, h'] using ih

end ArrayScene.Json

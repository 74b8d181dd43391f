import ArrayScene.Decimal.Integer
import ArrayScene.Decimal.Shortest
import ArrayScene.Json.Value

/-!
# JSON text

How a value is written: two blanks a level, one item or field a line, nothing inside an empty
array or object, and no line end after the last line. Only integers of 64 bits, signed or
unsigned, can be written; `write` refuses a value that holds another.
-/
namespace ArrayScene.Json

/-- The integers that can be written: those of 64 bits, signed or unsigned. -/
def inWordRange (n : Int) : Bool := -0x8000000000000000 ≤ n && n < 0x10000000000000000

/-- A hexadecimal digit in lower case. -/
def hexDigit (d : Nat) : Char := (Nat.digitChar d)

/-- A character inside a quoted string. -/
def escape (c : Char) : List Char :=
  if c = '"' then ['\\', '"']
  else if c = '\\' then ['\\', '\\']
  else if c = '\n' then ['\\', 'n']
  else if c = '\r' then ['\\', 'r']
  else if c = '\t' then ['\\', 't']
  else if c.toNat = 8 then ['\\', 'b']
  else if c.toNat = 12 then ['\\', 'f']
  else if c.toNat < 32 then
    ['\\', 'u', '0', '0', hexDigit (c.toNat / 16), hexDigit (c.toNat % 16)]
  else [c]

/-- A quoted string. -/
def quoted (s : String) : List Char :=
  '"' :: s.toList.flatMap escape ++ ['"']

/-- A line end and the indent of the next line. -/
def newLine (depth : Nat) : List Char := '\n' :: List.replicate (2 * depth) ' '

mutual

/-- The text of a value whose own line is indented by `depth` levels. -/
def layout (depth : Nat) : Value → List Char
  | .null => ['n', 'u', 'l', 'l']
  | .bool true => ['t', 'r', 'u', 'e']
  | .bool false => ['f', 'a', 'l', 's', 'e']
  | .int n => Decimal.ofInt n
  | .real x => x.text .file
  | .str s => quoted s
  | .arr [] => ['[', ']']
  | .arr (v :: vs) =>
    '[' :: newLine (depth + 1) ++ layout (depth + 1) v ++ layoutItems (depth + 1) vs ++
      newLine depth ++ [']']
  | .obj [] => ['{', '}']
  | .obj ((k, v) :: fields) =>
    '{' :: newLine (depth + 1) ++ quoted k ++ ':' :: ' ' :: layout (depth + 1) v ++
      layoutFields (depth + 1) fields ++ newLine depth ++ ['}']

/-- The items of an array after the first. -/
def layoutItems (depth : Nat) : List Value → List Char
  | [] => []
  | v :: vs => ',' :: newLine depth ++ layout depth v ++ layoutItems depth vs

/-- The fields of an object after the first. -/
def layoutFields (depth : Nat) : List (String × Value) → List Char
  | [] => []
  | (k, v) :: fields =>
    ',' :: newLine depth ++ quoted k ++ ':' :: ' ' :: layout depth v ++ layoutFields depth fields

end

mutual

/-- Whether every integer of a value can be written. -/
def writable : Value → Bool
  | .int n => inWordRange n
  | .arr items => writableItems items
  | .obj fields => writableFields fields
  | _ => true

def writableItems : List Value → Bool
  | [] => true
  | v :: vs => writable v && writableItems vs

def writableFields : List (String × Value) → Bool
  | [] => true
  | (_, v) :: fields => writable v && writableFields fields

end

/-- The text of a value, or none if it holds an integer that cannot be written. -/
def write (v : Value) : Option String :=
  if writable v then some (String.ofList (layout 0 v)) else none

theorem write_eq_none_iff {v : Value} : write v = none ↔ writable v = false := by
  cases h : writable v <;> simp [write, h]

theorem writable_of_write {v : Value} {text : String} (written : write v = some text) :
    writable v = true := by
  cases fits : writable v with
  | true => rfl
  | false =>
    rw [write_eq_none_iff.mpr fits] at written
    cases written

theorem writableItems_iff {vs : List Value} :
    writableItems vs = true ↔ ∀ v ∈ vs, writable v = true := by
  induction vs with
  | nil => simp [writableItems]
  | cons v vs ih => simp [writableItems, ih]

theorem writableFields_iff {fields : Fields} :
    writableFields fields = true ↔ ∀ p ∈ fields, writable p.2 = true := by
  induction fields with
  | nil => simp [writableFields]
  | cons p fields ih => obtain ⟨k, v⟩ := p; simp [writableFields, ih]

end ArrayScene.Json

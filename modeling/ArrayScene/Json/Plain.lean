import ArrayScene.Decimal.Integer
import ArrayScene.Decimal.Shortest
import ArrayScene.Json.Value
import ArrayScene.Text.Quoted

/-!
# Values in messages

The plain text of a value, as messages show it: a string stands as it is, and within arrays and
objects it is quoted.
-/
namespace ArrayScene.Json

mutual

/-- A value as it stands inside an array or an object. -/
def inner : Value → List Char
  | .null => "None".toList
  | .bool true => "True".toList
  | .bool false => "False".toList
  | .int n => Decimal.ofInt n
  | .real x => x.text .message
  | .str s => Text.showQuoted s
  | .arr [] => "[]".toList
  | .arr (v :: vs) => '[' :: inner v ++ innerItems vs ++ [']']
  | .obj [] => ['{', '}']
  | .obj ((k, v) :: fields) =>
    '{' :: Text.showQuoted k ++ ':' :: ' ' :: inner v ++ innerFields fields ++ ['}']

def innerItems : List Value → List Char
  | [] => []
  | v :: vs => ',' :: ' ' :: inner v ++ innerItems vs

def innerFields : List (String × Value) → List Char
  | [] => []
  | (k, v) :: fields =>
    ',' :: ' ' :: Text.showQuoted k ++ ':' :: ' ' :: inner v ++ innerFields fields

end

/-- The text of a value within a message. -/
def plain : Value → String
  | .str s => s
  | v => String.ofList (inner v)

/-- The name of the kind of a value. -/
def kindName : Value → String
  | .null => "NoneType"
  | .bool _ => "bool"
  | .int _ => "int"
  | .real _ => "float"
  | .str _ => "str"
  | .arr _ => "list"
  | .obj _ => "dict"

/-- Whether a value counts as not given: null, false, zero, or empty. -/
def isVoid : Value → Bool
  | .null => true
  | .bool b => !b
  | .int n => n == 0
  | .real x => x.mantissa == 0
  | .str s => s.isEmpty
  | .arr items => items.isEmpty
  | .obj fields => fields.isEmpty

end ArrayScene.Json

import ArrayScene.Failure
import ArrayScene.Json.Reader
import ArrayScene.Text.LetterCase

/-!
# Settings in the environment

Settings may come from variables: `LIFT_SCENE_RENDER` holds an object, and a variable for each
setting, whose name is that of the object, two underscores and the name of the setting, goes before
the object's field. Names of variables and of settings are compared without regard to case.
-/
namespace ArrayScene

/-- Variables and their values. -/
abbrev Environment := List (String × String)

namespace Environment

/-- The value of a variable by its exact name. -/
def valueOf? (env : Environment) (name : String) : Option String := (env.reverse).lookup name

/-- The variables under lower-case names; of two with one such name the later counts. -/
def folded (env : Environment) : Json.Fields :=
  Json.ofAssignments (env.map fun p => (Text.lower p.1, .str p.2))

/-- The characters of a text between double underscores. -/
def levels : List Char → List (List Char)
  | [] => [[]]
  | '_' :: '_' :: rest => [] :: levels rest
  | c :: rest =>
    match levels rest with
    | [] => [[c]]
    | level :: more => (c :: level) :: more

/-- Fields with a value put under a sequence of keys, one within another. A value that is no object
keeps what would go inside it away. -/
def putDeep (value : Json.Value) : List String → Json.Fields → Json.Fields
  | [], fields => fields
  | [key], fields => Json.put key value fields
  | key :: more, fields =>
    match Json.get? key fields with
    | none => Json.put key (.obj (putDeep value more [])) fields
    | some (.obj inner) => Json.put key (.obj (putDeep value more inner)) fields
    | some _ => fields

def objectName : List Char := "lift_scene_render".toList

/-- The fields that the variables for single settings give. -/
def settingFields (named : Json.Fields) : Json.Fields :=
  named.foldl (fun fields p =>
    let mark := objectName ++ ['_', '_']
    if mark.isPrefixOf p.1.toList then
      putDeep p.2 ((levels (p.1.toList.drop mark.length)).map String.ofList) fields
    else fields) []

mutual

/-- Fields laid over others; objects under one key are joined. -/
def overlay (base : Json.Fields) : List (String × Json.Value) → Json.Fields
  | [] => base
  | (key, v) :: rest =>
    overlay (Json.put key (overlayValue (Json.get? key base) v) base) rest

/-- A value laid over what was there. -/
def overlayValue (old : Option Json.Value) : Json.Value → Json.Value
  | .obj fields =>
    match old with
    | some (.obj base) => .obj (overlay base fields)
    | _ => .obj fields
  | v => v

end

/-- Fields under the names of a list, whatever their case. -/
def foldNames (names : List String) (fields : Json.Fields) : Json.Fields :=
  Json.ofAssignments (fields.map fun p =>
    match names.find? fun name => name = Text.lower p.1 with
    | some name => (name, p.2)
    | none => p)

/-- What the environment says about the settings, if anything. -/
def settings? (keys : List String) (env : Environment) : Except Failure (Option Json.Value) :=
  let single := settingFields env.folded
  match Json.get? (String.ofList objectName) env.folded with
  | some (.str text) =>
    match Json.read .unbounded text with
    | none => .error .environmentText
    | some .null => .ok none
    | some (.obj fields) => .ok (some (.obj (foldNames keys (overlay fields single))))
    | some v => .ok (some v)
  | _ => if single.isEmpty then .ok none else .ok (some (.obj (foldNames keys single)))

end Environment

end ArrayScene

import ArrayScene.Settings.Basic
import ArrayScene.Settings.Environment
import ArrayScene.Yaml.Reader

/-!
# Resolving the settings

Where the settings of a run come from. At most one settings file is looked at: the one that is asked
for, else the one that the environment names, else the usual one if it is there. What the
environment says goes before the file, field by field, and the defaults come last.
-/
namespace ArrayScene

namespace Settings

/-- The usual settings file. -/
def usualFile : Path := Path.ofString "config/lift_scene.yaml"

/-- The variable that names a settings file. -/
def fileVariable : String := "LIFT_SCENE_CONFIG_PATH"

/-- The settings file that counts: one that was asked for or named has to be there. -/
def chosenFile (env : Environment) (asked : Option Path) (d : Disk) :
    Except Failure (Option Path) :=
  let named := (env.valueOf? fileVariable).filter (· ≠ "")
  match asked.or (named.map Path.ofString) with
  | some p => if d.has p then .ok (some p) else .error (.noConfig p)
  | none => .ok (if d.has usualFile then some usualFile else none)

/-- The fields that a settings file holds. A folder in its place holds none. -/
def fileFields (d : Disk) (p : Path) : Except Failure Json.Fields :=
  match d.read p with
  | .error _ => .ok []
  | .ok bytes =>
    match (String.fromUTF8? bytes).bind Yaml.read with
    | some (.obj fields) => .ok (Environment.foldNames ["render"] fields)
    | some v => if Json.isVoid v then .ok [] else .error .configText
    | none => .error .configText

/-- The fields of the settings file that is looked at, if any is. -/
def fieldsOf (d : Disk) : Option Path → Except Failure Json.Fields
  | some p => fileFields d p
  | none => .ok []

/-- What the environment says about the settings goes before the fields of a settings file. -/
def fromSources (env : Environment) (file : Option Path) (d : Disk) : Except Failure Settings := do
  let fields ← fieldsOf d file
  let own ← env.settings? keys
  let all := match own with
    | some v => Environment.overlay fields [("render", v)]
    | none => fields
  match Validation.report "AppSettings" (readConfiguration all) with
  | .ok settings => .ok settings
  | .error report => .error (.invalid report)

/-- The settings of a run. -/
def resolve (env : Environment) (asked : Option Path) (d : Disk) : Except Failure Settings := do
  let file ← chosenFile env asked d
  fromSources env file d

end Settings

end ArrayScene

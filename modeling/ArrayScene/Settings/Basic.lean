import ArrayScene.Store.Path
import ArrayScene.Text.LetterCase
import ArrayScene.Validation.Integer

/-!
# Settings

What a rendering run may be told: where requests lie, where scenes go and in which format, how
large a unit is, and how much is logged. Each setting has a default and is read on its own.
-/
namespace ArrayScene

open Validation

/-- What a scene is written as. -/
inductive Format where
  | scene | sketch
  deriving DecidableEq, Repr

namespace Format

def name : Format → String
  | scene => "scene"
  | sketch => "excalidraw"

/-- The format of a name. -/
def ofName? (name : String) : Option Format :=
  if name = "scene" then some .scene
  else if name = "excalidraw" then some .sketch
  else none

/-- The ending of the names of files in a format. -/
def ending : Format → String
  | scene => ".scene.json"
  | sketch => ".excalidraw"

end Format

inductive LogLevel where
  | critical | fatal | error | warn | warning | info | debug | notSet
  deriving DecidableEq, Repr

namespace LogLevel

def name : LogLevel → String
  | critical => "CRITICAL"
  | fatal => "FATAL"
  | error => "ERROR"
  | warn => "WARN"
  | warning => "WARNING"
  | info => "INFO"
  | debug => "DEBUG"
  | notSet => "NOTSET"

def all : List LogLevel := [critical, fatal, error, warn, warning, info, debug, notSet]

/-- The level of a name. -/
def ofName? (name : String) : Option LogLevel := all.find? (·.name = name)

end LogLevel

structure Settings where
  inputDir : Path
  outputDir : Path
  format : Format
  unitSize : Int
  logLevel : LogLevel
  deriving DecidableEq, Repr

namespace Settings

def default : Settings :=
  ⟨Path.ofString "data/ir", Path.ofString "data/scenes", .scene, 20, .warning⟩

/-- The names of the settings, in the order in which they are read. -/
def keys : List String := ["input_dir", "output_dir", "output_format", "unit_size", "log_level"]

/-- A character in upper case, as far as that is a letter of a level's name. Besides the small
letters, the dotless i and the long s have such capitals. -/
def levelLetter (c : Char) : Char :=
  if 'a' ≤ c ∧ c ≤ 'z' then Char.ofNat (c.toNat - 32)
  else if c.toNat = 0x131 then 'I'
  else if c.toNat = 0x17F then 'S'
  else c

/-- The text of a value without blanks around it; one that is void counts as a given word. -/
def wordOf (void : String) (v : Json.Value) : List Char :=
  Text.trim Text.isBlank ((if Json.isVoid v then void else Json.plain v).toList)

def readPath (place : List String) (v : Json.Value) : Checked Path :=
  match v with
  | .str s => .ok (Path.ofString s)
  | _ => refuse .notPath place v

def readFormat (place : List String) (v : Json.Value) : Checked Format :=
  match Format.ofName? (Text.lower (String.ofList (wordOf "scene" v))) with
  | some format => .ok format
  | none => refuse .unknownFormat place v

def readLogLevel (place : List String) (v : Json.Value) : Checked LogLevel :=
  match LogLevel.ofName? (String.ofList ((wordOf "WARNING" v).map levelLetter)) with
  | some level => .ok level
  | none => refuse (.unknownLevel (Json.plain v)) place v

/-- A value read as settings. -/
def read (place : List String) (v : Json.Value) : Checked Settings :=
  match v with
  | .obj fields =>
    (both (optional place "input_dir" fields default.inputDir readPath)
      (both (optional place "output_dir" fields default.outputDir readPath)
        (both (optional place "output_format" fields default.format readFormat)
          (both (optional place "unit_size" fields default.unitSize positiveInteger)
            (optional place "log_level" fields default.logLevel readLogLevel))))).map
              fun (inputDir, outputDir, format, unitSize, logLevel) =>
                ⟨inputDir, outputDir, format, unitSize, logLevel⟩
  | _ => refuse (.notRecord "RenderSettings") place v

/-- The settings that a value holds. -/
def ofJson (v : Json.Value) : Except Report Settings := report "RenderSettings" (read [] v)

/-- The settings in the fields of a whole configuration, which has no other field than theirs. -/
def readConfiguration (fields : Json.Fields) : Checked Settings :=
  let extra := fields.filter fun p => p.1 ≠ "render"
  (both (optional [] "render" fields default read)
    (if extra.isEmpty then .ok () else
      .error (extra.map fun p => ⟨.extraKey, [p.1], p.2⟩))).map fun (settings, _) => settings

def toJson (s : Settings) : Json.Value :=
  .obj [("input_dir", .str s.inputDir.toString), ("output_dir", .str s.outputDir.toString),
    ("output_format", .str s.format.name), ("unit_size", .int s.unitSize),
    ("log_level", .str s.logLevel.name)]

end Settings

end ArrayScene

import ArrayScene.Console.Markup
import ArrayScene.Sketch
import ArrayScene.Store.Disk
import ArrayScene.Text.Quoted
import ArrayScene.Validation.Fault

/-!
# Failures

All that can end the work on a document, and what is said about it. A failure is `reported` if the
commands note it and go on; any other one ends the command.
-/
namespace ArrayScene

inductive Failure where
  | disk (fault : DiskFault)
  /-- The content of a file is not JSON. -/
  | notJson
  /-- The content of a file is JSON but not an object. -/
  | notObject (path : Path)
  | invalid (report : Validation.Report)
  | scene (fault : SceneFault)
  | sketch (fault : SketchFault)
  /-- A document holds an integer that cannot be written. -/
  | integerRange
  /-- A path without a last part cannot be written to. -/
  | nameless (path : Path)
  /-- A text cannot be printed. -/
  | markup (fault : Markup.Fault)
  /-- An integer has too many digits to be printed. -/
  | digitLimit
  /-- A settings file that was asked for is not there. -/
  | noConfig (path : Path)
  /-- The settings file cannot be read. -/
  | configText
  /-- The variable that holds the settings is not JSON. -/
  | environmentText
  deriving Repr

namespace Failure

/-- The text of a failure. What a reader of JSON or of settings has to say about a malformed text
is not part of it. -/
def message : Failure → String
  | disk .notFound => "No such file or directory"
  | disk .isFolder => "Is a directory"
  | disk .notFolder => "Not a directory"
  | disk .exists => "File exists"
  | notJson => "<json error>"
  | notObject path => "Expected a JSON object in " ++ path.toString
  | invalid report => report.text
  | scene fault => fault.message
  | sketch fault => fault.message
  | integerRange => "Integer exceeds 64-bit range"
  | nameless path =>
    "PosixPath(" ++ String.ofList (Text.showQuoted path.toString) ++ ") has an empty name"
  | markup .unopenedTag => "closing tag doesn't match any open tag"
  | markup .parameters => "parameters of a tag cannot be read"
  | markup .style => "style of a tag cannot be read"
  | digitLimit => "Exceeds the limit (4300 digits) for integer string conversion"
  | noConfig path => "Config file not found: " ++ path.toString
  | configText => "malformed settings file"
  | environmentText => "malformed settings variable"

/-- Whether a command notes the failure of a document and goes on. -/
def reported : Failure → Bool
  | notJson | notObject _ | invalid _ => true
  | scene fault => fault.ofRequest
  | _ => false

end Failure

end ArrayScene

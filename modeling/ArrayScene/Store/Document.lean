import ArrayScene.Failure
import ArrayScene.Json.Reader
import ArrayScene.Json.Writer
import ArrayScene.Source.Reading

/-!
# Documents on a disk

How JSON documents are loaded and saved. A document is written next to its target under a longer
name and then moved there, so the target has either its old content or all of its new one. Folders
that are made for it stay if the writing fails.
-/
namespace ArrayScene

namespace Disk

/-- The object in a file. -/
def loadObject (d : Disk) (p : Path) : Except Failure Json.Fields :=
  match d.read p with
  | .error fault => .error (.disk fault)
  | .ok bytes =>
    match Json.readBytes bytes with
    | none => .error .notJson
    | some (.obj fields) => .ok fields
    | some _ => .error (.notObject p)

/-- The request in a file; one without a name is named after the file. -/
def loadRequest (d : Disk) (p : Path) : Except Failure Request := do
  let fields ← d.loadObject p
  match Request.ofJson (.obj (Json.putNew "name" (.str p.stem) fields)) with
  | .ok r => .ok r
  | .error report => .error (.invalid report)

/-- The sketch in a file, with what is missing in it left empty. -/
def loadSketch (d : Disk) (p : Path) : Except Failure Json.Value := do
  let fields ← d.loadObject p
  let part (key : String) (default : Json.Value) := (Json.get? key fields).getD default
  .ok (sketchDocument (part "elements" (.arr [])) (part "appState" (.obj []))
    (part "files" (.obj [])))

/-- The paths of the request files in a folder, in the order of their names. -/
def requestFiles (d : Disk) (folder : Path) : List Path :=
  ((d.list folder).filter fun name => ".json".toList.isSuffixOf name.toList).map folder.child

/-- The requests in a folder, each with its path. -/
def loadRequests (d : Disk) (folder : Path) : Except Failure (List (Path × Request)) :=
  (d.requestFiles folder).mapM fun p => do
    let r ← d.loadRequest p
    .ok (p, r)

/-- Where a document is written before it is moved to its target. -/
def draftOf (p : Path) : Path := p.lengthened ".tmp"

/-- A document saved at a path: the disk afterwards, and whether it worked. -/
def save (d : Disk) (p : Path) (v : Json.Value) : Disk × Except Failure Unit :=
  match d.ensureFolders p.parent with
  | (d, .error fault) => (d, .error (.disk fault))
  | (d, .ok ()) =>
    if p.name = "" then (d, .error (.nameless p))
    else match Json.write v with
      | none => (d, .error .integerRange)
      | some text =>
        match d.write (draftOf p) text.toUTF8 with
        | .error fault => (d, .error (.disk fault))
        | .ok drafted =>
          match drafted.move (draftOf p) p with
          | .error fault => (drafted, .error (.disk fault))
          | .ok moved => (moved, .ok ())

/-- A scene saved at a path. -/
def saveScene (d : Disk) (p : Path) (s : Scene) : Disk × Except Failure Unit := d.save p s.toJson

/-- A scene saved at a path as a sketch. -/
def saveSketch (d : Disk) (p : Path) (unit : Int) (seeds : Seeds) (s : Scene) :
    Disk × Except Failure Unit :=
  match Sketch.ofScene unit seeds s with
  | .ok sketch => d.save p sketch.toJson
  | .error fault => (d, .error (.sketch fault))

end Disk

end ArrayScene

import ArrayScene.Command.Usage
import ArrayScene.Console.Outline
import ArrayScene.Settings.Resolution
import ArrayScene.Store.Document

/-!
# Running the commands

The commands as functions of the disk and the environment: what is on the disk afterwards, what was
printed, and how the run ended. `render` writes the scene of every request in a folder and goes on
after a request that has no scene; `inspect` prints the tree of a request's nodes; `validate` says
whether a file holds a request. What a run prints goes to a console, and the random numbers of a
sketch are drawn anew for every file.
-/
namespace ArrayScene

/-- How a run ends: with an exit code, or by a failure that no command deals with. -/
inductive Ending where
  | exit (code : Nat)
  | escaped (failure : Failure)

structure Outcome where
  disk : Disk
  printed : String
  ending : Ending

namespace Command

/-- A last line and an exit code. -/
def finish (console : Console) (disk : Disk) (text : String) (code : Nat) : Outcome :=
  match console.line text with
  | .ok line => ⟨disk, line, .exit code⟩
  | .error failure => ⟨disk, "", .escaped failure⟩

/-- How scenes are written; `seeds` gives the random numbers for the sketch of each file. -/
structure Target where
  folder : Path
  format : Format
  unitSize : Int
  seeds : Path → Seeds

/-- Where the scene of a request file is written. -/
def Target.pathFor (t : Target) (file : Path) : Path :=
  t.folder.child (file.stem ++ t.format.ending)

/-- A scene written. -/
def Target.save (t : Target) (disk : Disk) (file : Path) (s : Scene) :
    Disk × Except Failure Unit :=
  match t.format with
  | .scene => disk.saveScene (t.pathFor file) s
  | .sketch => disk.saveSketch (t.pathFor file) t.unitSize (t.seeds file) s

/-- The scene of the request in a file. -/
def sceneOf (disk : Disk) (file : Path) : Except Failure Scene := do
  let r ← disk.loadRequest file
  match Scene.render pairwise r with
  | .ok s => .ok s
  | .error fault => .error (.scene fault)

/-- What came of a request file: its scene was written, or its failure was noted. -/
inductive Result where
  | wrote
  | failed
  deriving DecidableEq, Repr

/-- The work on one request file: the disk afterwards, and the line about it with the result. -/
def renderFile (console : Console) (t : Target) (disk : Disk) (file : Path) :
    Disk × Except Failure (String × Result) :=
  match sceneOf disk file with
  | .error failure =>
    if failure.reported then
      (disk, (console.line ("[red]Failed[/] " ++ file.toString ++ ": " ++ failure.message)).map
        fun line => (line, .failed))
    else (disk, .error failure)
  | .ok s =>
    match t.save disk file s with
    | (disk, .error failure) => (disk, .error failure)
    | (disk, .ok ()) =>
      (disk, (console.line ("[green]Wrote[/] " ++ (t.pathFor file).toString)).map
        fun line => (line, .wrote))

/-- The work on request files in turn; `failed` says whether one has failed so far. -/
def renderFiles (console : Console) (t : Target) (disk : Disk) (failed : Bool) :
    List Path → Outcome
  | [] => ⟨disk, "", .exit (if failed then 1 else 0)⟩
  | file :: rest =>
    match renderFile console t disk file with
    | (disk, .error failure) => ⟨disk, "", .escaped failure⟩
    | (disk, .ok (line, result)) =>
      let after := renderFiles console t disk (failed || result = .failed) rest
      ⟨after.disk, line ++ after.printed, after.ending⟩

/-- The name of the format that is asked for; an empty one counts as not given. -/
def formatName (given : Option String) (settings : Settings) : String :=
  Text.lower ((given.filter (· ≠ "")).getD settings.format.name)

def render (console : Console) (seeds : Path → Seeds) (env : Environment) (o : RenderOptions)
    (disk : Disk) : Outcome :=
  match Settings.resolve env o.config disk with
  | .error failure => ⟨disk, "", .escaped failure⟩
  | .ok settings =>
    let name := formatName o.format settings
    match Format.ofName? name with
    | none => finish console disk ("[red]Unknown format:[/] " ++ name) 2
    | some format =>
      let folder := o.inputDir.getD settings.inputDir
      match disk.requestFiles folder with
      | [] => finish console disk ("[yellow]No IR files found in " ++ folder.toString ++ "[/]") 0
      | files =>
        renderFiles console ⟨o.outputDir.getD settings.outputDir, format,
          o.unitSize.getD settings.unitSize, seeds⟩ disk false files

/-- The node of the request in a file, and the name of the request. -/
def nodeOf (disk : Disk) (file : Path) : Except Failure (String × Node) := do
  let r ← disk.loadRequest file
  match Node.ofSubject pairwise r.subject with
  | .ok node => .ok (r.name, node)
  | .error fault => .error (.scene fault)

/-- The printed tree of a named node. -/
def treeText (console : Console) (name : String) (node : Node) : Except Failure String :=
  match node.outline with
  | .error failure => .error failure
  | .ok within =>
    (Outline.item ("[bold]" ++ String.ofList (Markup.escape name.toList) ++ "[/]") within).print
      console

def inspect (console : Console) (env : Environment) (file : Path) (config : Option Path)
    (disk : Disk) : Outcome :=
  match Settings.resolve env config disk with
  | .error failure => ⟨disk, "", .escaped failure⟩
  | .ok _ =>
    if disk.has file then
      match nodeOf disk file with
      | .error failure =>
        if failure.reported then
          finish console disk ("[red]Cannot build scene:[/] " ++ failure.message) 1
        else ⟨disk, "", .escaped failure⟩
      | .ok (name, node) =>
        match treeText console name node with
        | .ok text => ⟨disk, text, .exit 0⟩
        | .error failure => ⟨disk, "", .escaped failure⟩
    else finish console disk ("[red]File not found:[/] " ++ file.toString) 1

def validate (console : Console) (file : Path) (disk : Disk) : Outcome :=
  if disk.has file then
    match disk.loadRequest file with
    | .error failure =>
      if failure.reported then
        finish console disk ("[red]Validation failed:[/] " ++ failure.message) 1
      else ⟨disk, "", .escaped failure⟩
    | .ok _ => finish console disk ("[green]Valid IR file:[/] " ++ file.toString) 0
  else finish console disk ("[red]File not found:[/] " ++ file.toString) 1

/-- A run of the program with the words of a command line. -/
def run (console : Console) (seeds : Path → Seeds) (env : Environment) (words : List String)
    (disk : Disk) : Outcome :=
  match Invocation.ofWords words with
  | none => ⟨disk, "", .exit 2⟩
  | some .help => ⟨disk, "", .exit 0⟩
  | some (.render o) => render console seeds env o disk
  | some (.inspect file config) => inspect console env file config disk
  | some (.validate file) => validate console file disk

end Command

end ArrayScene

import ArrayScene.Command.Run
import ArrayScene.Console.Plain

/-!
# The program

Runs a command on the files of this machine: fetches what the command may look at, lets the command
work on that, prints what it printed, and stores what it changed.
-/
namespace ArrayScene.Program

/-- The absolute name of a location. -/
def nameOf (loc : Location) : String := "/" ++ "/".intercalate loc

/-- Puts on a disk what this machine has at a location, if it has something there. -/
def fetch (d : Disk) (loc : Location) : IO Disk := do
  let place := (← IO.currentDir) / nameOf loc
  if loc.isEmpty then return d
  else if ← place.isDir then return d.put loc .folder
  else if ← place.pathExists then return d.put loc (.file (← IO.FS.readBinFile place))
  else return d

/-- Puts on a disk what this machine has on the way along a path, and in the folder at its end. -/
def fetchAlong (d : Disk) (p : Path) : IO Disk := do
  let mut disk := d
  let mut loc := d.origin p.root
  for part in p.parts do
    loc := Disk.step loc part
    disk ← fetch disk loc
  if disk.at? loc = some .folder then
    for entry in ← ((← IO.currentDir) / nameOf loc).readDir do
      disk ← fetch disk (loc ++ [entry.fileName])
  return disk

/-- The variables of this machine that settings come from. -/
def environment : IO Environment := do
  let object := "LIFT_SCENE_RENDER"
  let names := Settings.fileVariable :: object ::
    Settings.keys.map fun key => object ++ "__" ++ key.toUpper
  names.filterMapM fun name => return (← IO.getEnv name).map (name, ·)

/-- Two random numbers for every place in every file. -/
def randomSeeds : IO (Path → Seeds) := do
  let start ← IO.rand 0 0x7ffffffe
  return fun file i =>
    let ofFile := (hash file.toString).toNat % 0x7fffffff
    let (seed, generator) := randNat (mkStdGen (start + ofFile + i)) 1 0x7fffffff
    (seed, (randNat generator 1 0x7fffffff).1)

/-- The paths that are given with a command. -/
def givenPaths : Invocation → List Path
  | .render o => o.inputDir.toList ++ o.outputDir.toList ++ o.config.toList
  | .inspect file config => file :: config.toList
  | .validate file => [file]
  | .help => []

/-- The settings file that is asked for with a command. -/
def askedConfig : Invocation → Option Path
  | .render o => o.config
  | .inspect _ config => config
  | _ => none

/-- The part of this machine's disk that a command may look at. -/
def diskFor (env : Environment) (command : Invocation) : IO Disk := do
  let here := (Path.ofString (← IO.currentDir).toString).parts
  let named := (env.valueOf? Settings.fileVariable).toList.map Path.ofString
  let disk ← (Settings.usualFile :: named ++ givenPaths command).foldlM fetchAlong
    (Disk.startingIn here)
  match Settings.resolve env (askedConfig command) disk with
  | .ok settings => [settings.inputDir, settings.outputDir].foldlM fetchAlong disk
  | .error _ => return disk

/-- Stores on this machine what has changed on a disk. -/
def store (before after : Disk) : IO Unit := do
  let root ← IO.currentDir
  for (loc, entry) in after.entries.reverse do
    if before.at? loc ≠ some entry then
      match entry with
      | .folder => IO.FS.createDirAll (root / nameOf loc)
      | .file content => IO.FS.writeBinFile (root / nameOf loc) content
  for (loc, _) in before.entries do
    if after.at? loc = none then IO.FS.removeFile (root / nameOf loc)

def usage : String :=
  "Usage: render [--input-dir DIR] [--output-dir DIR] [--format FORMAT] [--unit-size N] " ++
    "[--config FILE]\n       inspect [--config FILE] FILE\n       validate FILE\n"

end ArrayScene.Program

open ArrayScene in
def main (words : List String) : IO UInt32 := do
  match Invocation.ofWords words with
  | none =>
    IO.eprint Program.usage
    return 2
  | some .help =>
    IO.print Program.usage
    return 0
  | some command =>
    let env ← Program.environment
    let disk ← Program.diskFor env command
    let outcome := Command.run .plain (← Program.randomSeeds) env words disk
    IO.print outcome.printed
    Program.store disk outcome.disk
    match outcome.ending with
    | .exit code => return code.toUInt32
    | .escaped failure =>
      IO.eprintln failure.message
      return 1

import ArrayScene.Settings.Resolution

/-!
# Loading settings one call after another

A process holds the settings file that its sources read: the file that counts while a load is under
way, and what it held before at all other times. A load that fails puts that back as well.
-/
namespace ArrayScene

namespace Settings

/-- The circumstances of a load: the variables, the settings file that is asked for, the disk. -/
structure Call where
  env : Environment
  asked : Option Path
  disk : Disk

/-- A computation that may fail, over the settings file that is held. What it leaves there
outlives a failure. -/
abbrev Loading := ExceptT Failure (StateM (Option Path))

/-- The settings of a call. Where no file counts, the one that is held is read. -/
def load (c : Call) : Loading Settings := do
  let before ← get
  try
    if let some p ← chosenFile c.env c.asked c.disk then
      set (some p)
    fromSources c.env (← get) c.disk
  finally
    set before

/-- Calls one after another, each with its own outcome. -/
def loadEach : List Call → StateM (Option Path) (List (Except Failure Settings))
  | [] => pure []
  | c :: rest => do
    let outcome ← (load c).run
    return outcome :: (← loadEach rest)

end Settings

end ArrayScene

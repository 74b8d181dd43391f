import ArrayScene.Proofs.Json.ReadBack
import ArrayScene.Proofs.Settings.Layers
import ArrayScene.Settings.Session

/-!
# Loads one after another

A load leaves the settings file that is held as it was, whether it succeeds or not, so each of a
sequence of loads gives what it gives alone. It looks at one file at most, and decides each setting
on its own.
-/
namespace ArrayScene

namespace Settings

open Json (get?)

/-! ### What is held -/

/-- What a call gives where a settings file is held. -/
def outcome (c : Call) (held : Option Path) : Except Failure Settings := do
  let file ← chosenFile c.env c.asked c.disk
  fromSources c.env (file.or held) c.disk

theorem run_tryFinally {α : Type} {x : Loading α} {held after : Option Path}
    {result : Except Failure α} (ran : x.run.run held = (result, after)) :
    (tryFinally' x fun _ => (set held : Loading PUnit)).run.run held =
      ((fun a => (a, PUnit.unit)) <$> result, held) := by
  simp only [tryFinally', ExceptT.run, ExceptT.mk, StateT.run, bind, StateT.bind] at ran ⊢
  rw [ran]
  cases result <;> rfl

/-- What a computation leaves is put back, whether it fails or not. -/
theorem run_restoring {α : Type} (x : Loading α) (held : Option Path) :
    (do
      let before ← get
      try x finally set before : Loading α).run.run held = ((x.run.run held).1, held) := by
  cases ran : x.run.run held with
  | mk result after =>
    change (Prod.fst <$> tryFinally' x fun _ => (set held : Loading PUnit)).run.run held = _
    rw [ExceptT.run_map, StateT.run_map, run_tryFinally ran]
    cases result <;> rfl

/-- A load gives its outcome and puts back what was held. -/
theorem load_run (c : Call) (held : Option Path) :
    (load c).run.run held = (outcome c held, held) := by
  unfold load outcome
  rw [run_restoring]
  cases chosenFile c.env c.asked c.disk with
  | error failure => rfl
  | ok file => cases file <;> rfl

theorem outcome_none (c : Call) : outcome c none = resolve c.env c.asked c.disk := by
  simp only [outcome, resolve, Option.or_none]

/-- A run over calls gives what each call gives alone, and puts back what was held. -/
theorem loadEach_run (calls : List Call) (held : Option Path) :
    (loadEach calls).run held = (calls.map fun c => outcome c held, held) := by
  induction calls with
  | nil => rfl
  | cons c rest ih =>
    unfold loadEach
    rw [StateT.run_bind, load_run]
    change (do
      let (others, after) ← (loadEach rest).run held
      pure (outcome c held :: others, after) : Id _) = _
    rw [ih]
    rfl

/-! ### The settings file -/

namespace Call

/-- The settings that a call gives in a process that holds no settings file. -/
def resolve (c : Call) : Except Failure Settings := Settings.resolve c.env c.asked c.disk

/-- The settings file that a call asks for, else the one that its variables name. -/
def named? (c : Call) : Option Path :=
  match c.asked, c.env.valueOf? fileVariable with
  | some p, _ => some p
  | none, some text => if text = "" then none else some (Path.ofString text)
  | none, none => none

/-- The only settings file that a call may look at. -/
def candidate (c : Call) : Path := c.named?.getD usualFile

/-- The fields of the settings file that a call looks at. -/
def fileFields (c : Call) : Except Failure Json.Fields := do
  let file ← chosenFile c.env c.asked c.disk
  fieldsOf c.disk file

/-- A call looks at the file that is asked for or named, which has to be there, else at the usual
one, else at none; what is at other places does not matter. -/
structure LooksAtOneFile (c : Call) : Prop where
  named : ∀ p, c.named? = some p → c.disk.has p = true →
    c.resolve = fromSources c.env (some p) c.disk
  missing : ∀ p, c.named? = some p → c.disk.has p = false → c.resolve = .error (.noConfig p)
  usual : c.named? = none → c.disk.has usualFile = true →
    c.resolve = fromSources c.env (some usualFile) c.disk
  nothing : c.named? = none → c.disk.has usualFile = false →
    c.resolve = fromSources c.env none c.disk
  other : ∀ d : Disk, d.has c.candidate = c.disk.has c.candidate →
    d.read c.candidate = c.disk.read c.candidate →
    (Call.mk c.env c.asked d).resolve = c.resolve

/-- Settings are found where the file has no other field than the object of the settings, no
variable goes inside a setting without a variable of its own, and each setting is found for itself.
So what a file says about a setting with a variable does not matter. -/
structure DecidesEach (c : Call) (yaml : Json.Fields) : Prop where
  found : ∀ s, c.resolve = .ok s ↔
    (∀ f ∈ yaml, f.1 = "render") ∧
    (∀ v, get? "render" yaml = some v → (∃ fields, v = .obj fields) ∨ c.env.GivesFields) ∧
    (∀ key ∈ keys, c.env.setting? key = none → ¬c.env.Nested key) ∧
    Layered c.env (Environment.fieldsIn (get? "render" yaml)) s
  overridden : ∀ (c' : Call) yaml' fields', c'.env = c.env → c'.fileFields = .ok yaml' →
    (∀ f ∈ yaml', f.1 = "render") → get? "render" yaml' = some (.obj fields') →
    (∀ key ∈ keys, c.env.setting? key = none →
      get? key fields' = get? key (Environment.fieldsIn (get? "render" yaml))) →
    ∀ s, c.resolve = .ok s → c'.resolve = .ok s

variable (c : Call)

theorem chosenFile_eq (d : Disk) : chosenFile c.env c.asked d =
    if d.has c.candidate then .ok (some c.candidate)
    else
      match c.named? with
      | some p => .error (.noConfig p)
      | none => .ok none := by
  have same : c.asked.or (((c.env.valueOf? fileVariable).filter (· ≠ "")).map Path.ofString) =
      c.named? := by
    unfold named?
    cases c.asked with
    | some p => rfl
    | none =>
      cases c.env.valueOf? fileVariable with
      | none => rfl
      | some text => by_cases blank : text = "" <;> simp [Option.filter, blank]
  unfold chosenFile candidate
  simp only [same]
  cases c.named? with
  | none => exact apply_ite Except.ok _ _ _
  | some p => rfl

theorem resolve_eq (d : Disk) : (Call.mk c.env c.asked d).resolve =
    if d.has c.candidate then fromSources c.env (some c.candidate) d
    else
      match c.named? with
      | some p => .error (.noConfig p)
      | none => fromSources c.env none d := by
  unfold resolve Settings.resolve
  rw [c.chosenFile_eq]
  split
  · rfl
  · cases c.named? <;> rfl

/-- Of the disk, a call depends on the candidate alone. -/
theorem resolve_congr {d : Disk} (there : d.has c.candidate = c.disk.has c.candidate)
    (content : d.read c.candidate = c.disk.read c.candidate) :
    (Call.mk c.env c.asked d).resolve = c.resolve := by
  have sources : fromSources c.env (some c.candidate) d =
      fromSources c.env (some c.candidate) c.disk := by
    simp only [fromSources, fieldsOf, Settings.fileFields, content]
  have nothing : fromSources c.env none d = fromSources c.env none c.disk := rfl
  refine (c.resolve_eq d).trans (Eq.trans ?_ (c.resolve_eq c.disk).symm)
  rw [there, sources, nothing]

theorem looksAtOneFile : c.LooksAtOneFile := by
  have resolved := c.resolve_eq c.disk
  unfold candidate at resolved
  constructor
  case named =>
    intro p named there
    rw [named, Option.getD_some, if_pos there] at resolved
    exact resolved
  case missing =>
    intro p named missing
    rw [named, Option.getD_some, if_neg (Bool.eq_false_iff.mp missing)] at resolved
    exact resolved
  case usual =>
    intro none there
    rw [none, Option.getD_none, if_pos there] at resolved
    exact resolved
  case nothing =>
    intro none missing
    rw [none, Option.getD_none, if_neg (Bool.eq_false_iff.mp missing)] at resolved
    exact resolved
  case other => exact fun _ => c.resolve_congr

variable {c} {yaml : Json.Fields}

/-- The sources of a call, once its file is read. -/
theorem exists_of_fileFields (given : c.fileFields = .ok yaml) :
    ∃ file, fieldsOf c.disk file = .ok yaml ∧ c.resolve = fromSources c.env file c.disk := by
  obtain ⟨file, chosen, given⟩ := exists_of_bind_eq_ok given
  refine ⟨file, given, ?_⟩
  unfold resolve Settings.resolve
  rw [chosen]
  rfl

/-- A call that names no file looks at the usual one if that is there. -/
theorem fileFields_of_usual (none : c.named? = none) (there : c.disk.has usualFile = true) :
    c.fileFields = Settings.fileFields c.disk usualFile := by
  have chosen := c.chosenFile_eq c.disk
  unfold candidate at chosen
  rw [none, Option.getD_none, if_pos there] at chosen
  unfold fileFields
  rw [chosen]
  rfl

theorem decidesEach (noObject : ∀ p ∈ c.env, Text.lower p.1 ≠ "lift_scene_render")
    (given : c.fileFields = .ok yaml) : c.DecidesEach yaml := by
  obtain ⟨file, given, resolved⟩ := exists_of_fileFields given
  have found (s : Settings) := fromSources_eq_ok_iff (s := s) noObject given
  rw [← resolved] at found
  refine ⟨found, ?_⟩
  intro c' yaml' fields' sameEnv given' only render same s success
  obtain ⟨_, _, flat, layered⟩ := (found s).mp success
  obtain ⟨file', given', resolved'⟩ := exists_of_fileFields given'
  rw [resolved', sameEnv, fromSources_eq_ok_iff noObject given']
  refine ⟨only, fun v other => .inl ⟨fields', ?_⟩, flat, ?_⟩
  · exact Option.some.inj (other.symm.trans render)
  · simp only [keys, List.forall_mem_cons] at same
    obtain ⟨inputDir, outputDir, format, unitSize, logLevel, _⟩ := same
    rw [render]
    exact ⟨layered.inputDir.congr inputDir, layered.outputDir.congr outputDir,
      layered.format.congr format, layered.unitSize.congr unitSize,
      layered.logLevel.congr logLevel⟩

end Call

/-- Loads do not get in each other's way: whatever settings file was held is held again after each
of them, and after all, and each gives what it gives alone. A load looks at one settings file at
most, the right one; and where the variables give no whole object, it decides each setting
separately, by its variable, by the file or by its default. -/
theorem loads_independent (held : Option Path) (calls : List Call) :
    (loadEach calls).run held = (calls.map fun c => ((load c).run.run held).1, held) ∧
      ∀ c : Call, ((load c).run.run held).2 = held ∧
        (load c).run.run none = (c.resolve, none) ∧ c.LooksAtOneFile ∧
        ∀ yaml, (∀ p ∈ c.env, Text.lower p.1 ≠ "lift_scene_render") →
          c.fileFields = .ok yaml → c.DecidesEach yaml := by
  refine ⟨?_, fun c => ⟨?_, ?_, c.looksAtOneFile, fun _ => Call.decidesEach⟩⟩
  · simp only [loadEach_run, load_run]
  · rw [load_run]
  · rw [load_run, outcome_none, Call.resolve]

/-- A settings file whose unit is not positive. -/
def zeroUnit : String := "render: {unit_size: 0, log_level: debug}"

def zeroUnitFields : Json.Fields := [("unit_size", .int 0), ("log_level", .str "debug")]

/-- The unit and the level of a settings file that has nothing else. -/
def unitAndLevel? : Json.Value → Option (Int × String)
  | .obj [("render", .obj [("unit_size", .int n), ("log_level", .str level)])] => some (n, level)
  | _ => none

theorem eq_of_unitAndLevel? {v : Json.Value} {n : Int} {level : String}
    (both : unitAndLevel? v = some (n, level)) :
    v = .obj [("render", .obj [("unit_size", .int n), ("log_level", .str level)])] := by
  unfold unitAndLevel? at both
  split at both
  · cases both
    rfl
  · cases both

theorem read_zeroUnit : Yaml.read zeroUnit = some (.obj [("render", .obj zeroUnitFields)]) := by
  have both : (Yaml.read zeroUnit).bind unitAndLevel? = some (0, "debug") := by decide +kernel
  obtain ⟨v, read, both⟩ := Option.bind_eq_some_iff.mp both
  rw [read, eq_of_unitAndLevel? both]
  rfl

/-- A disk with that settings file in its usual place. -/
def besideZeroUnit : Disk :=
  ((Disk.startingIn ["w"]).put ["w", "config"] .folder).put ["w", "config", "lift_scene.yaml"]
    (.file zeroUnit.toUTF8)

theorem fileFields_zeroUnit : Settings.fileFields besideZeroUnit usualFile =
    .ok [("render", .obj zeroUnitFields)] := by
  have content : besideZeroUnit.read usualFile = .ok zeroUnit.toUTF8 := rfl
  have lowered : Text.lower "render" = "render" := by decide +kernel
  unfold Settings.fileFields
  rw [content]
  simp only [Json.fromUTF8?_toUTF8, Option.bind_some, read_zeroUnit]
  simp [Environment.foldNames, lowered, Json.ofAssignments, Json.put]

/-- A call for a file that is not there, one that finds a unit which is not positive, and one that
has a variable for the unit. -/
theorem loads_independent_override :
    let missing : Call := ⟨[], some ⟨.relative, ["absent"]⟩, besideZeroUnit⟩
    let plain : Call := ⟨[], none, besideZeroUnit⟩
    let override : Call := ⟨[("Lift_Scene_Render__Unit_Size", "7")], none, besideZeroUnit⟩
    (∀ s, plain.resolve ≠ .ok s) ∧
      (loadEach [missing, override]).run none =
        ([.error (.noConfig ⟨.relative, ["absent"]⟩),
          .ok { default with unitSize := 7, logLevel := .debug }], none) := by
  intro missing plain override
  obtain ⟨whole, each⟩ := loads_independent none [missing, override]
  have absent : missing.resolve = .error (.noConfig ⟨.relative, ["absent"]⟩) :=
    (each missing).2.2.1.missing _ rfl (by decide +kernel)
  have there : besideZeroUnit.has usualFile = true := by decide +kernel
  refine ⟨?_, ?_⟩
  · intro s found
    have decided := (each plain).2.2.2 _ (List.forall_mem_nil _)
      ((Call.fileFields_of_usual rfl there).trans fileFields_zeroUnit)
    have unit := ((decided.found s).mp found).2.2.2.unitSize
    cases unit
  · have noObject : ∀ p ∈ override.env, Text.lower p.1 ≠ "lift_scene_render" := by
      decide +kernel
    have own : override.env.setting? "unit_size" = some "7" := by decide +kernel
    have others : ∀ key ∈ ["input_dir", "output_dir", "output_format", "log_level"],
        override.env.setting? key = none := by
      decide +kernel
    have shallow : ∀ key ∈ keys, ∀ p ∈ override.env,
        ¬Environment.GoesInside key (Text.lower p.1) := by
      unfold Environment.GoesInside
      decide +kernel
    have decided := (each override).2.2.2 _ noObject
      ((Call.fileFields_of_usual rfl there).trans fileFields_zeroUnit)
    have found : override.resolve = .ok { default with unitSize := 7, logLevel := .debug } := by
      refine (decided.found _).mpr ⟨List.forall_mem_singleton.mpr rfl, ?_, ?_, ?_⟩
      · exact fun v same => .inl ⟨zeroUnitFields, (Option.some.inj same).symm⟩
      · rintro key known - ⟨p, member, inside⟩
        exact shallow key known p member inside
      · constructor <;> unfold Decided
        case inputDir => rw [others _ (by simp)]; rfl
        case outputDir => rw [others _ (by simp)]; rfl
        case format => rw [others _ (by simp)]; rfl
        case unitSize => rw [own]; rfl
        case logLevel => rw [others _ (by simp)]; rfl
    rw [whole]
    simp only [List.map_cons, List.map_nil, (each missing).2.1, (each override).2.1, absent, found]

end Settings

end ArrayScene

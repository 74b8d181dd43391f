import ArrayScene.Console.Plain
import ArrayScene.Proofs.Command.DiskEffect
import ArrayScene.Proofs.Command.UnitSize
import ArrayScene.Proofs.Json.ReadBack

/-!
# Runs of render

A run of `render` goes on after a request file that has no scene, as long as it can print what is
wrong with the file. What it writes for one file never touches another one's target, nor a request
file. A failure that cannot be printed ends the run, and the files after it are not looked at.
-/
namespace ArrayScene.Command

section Run

variable {console : Console} {t : Target} {disk : Disk} {folder : Path}
  (prepared : Prepared t disk folder) (positive : 1 ≤ t.unitSize)
include prepared

/-- After the work on the files before it, a request file is read as before the run. -/
theorem sceneOf_of_reached {d : Disk} {done : List Path} (reached : Reached t disk d done)
    {file : Path} (member : file ∈ disk.requestFiles folder) :
    sceneOf d file = sceneOf disk file := by
  obtain ⟨content, readable⟩ := prepared.readable file member
  refine sceneOf_congr (.trans (reached.read_eq readable ?_) readable.symm)
  exact fun loc leads other _ => not_uses_of_apart prepared.apart member leads

include positive

/-- The work on one file whose failure, if it fails, can be printed. -/
theorem renderFile_step {done rest : List Path} {file : Path}
    (files : disk.requestFiles folder = done ++ file :: rest) {d : Disk}
    (reached : Reached t disk d done) (speaks : Speaks console disk file) :
    ∃ after line result, renderFile console t d file = (after, .ok (line, result)) ∧
      decide (result = .failed) = fails disk file ∧ Reached t disk after (done ++ [file]) := by
  have member : file ∈ disk.requestFiles folder := by
    rw [files]
    exact List.mem_append_right _ List.mem_cons_self
  have same := sceneOf_of_reached prepared reached member
  cases scene : sceneOf disk file with
  | error failure =>
    obtain ⟨content, readable⟩ := prepared.readable file member
    obtain ⟨line, work⟩ := renderFile_of_failure (t := t) (prepared.plainFiles file member)
      (same.trans scene) (reported_of_sceneOf readable scene) (speaks failure scene)
    have refused : fails disk file = true := by rw [fails, scene]
    exact ⟨d, line, .failed, work, refused.symm, reached.failed refused⟩
  | ok s =>
    have new : ∀ other ∈ done, t.pathFor other ≠ t.pathFor file := by
      have distinct := prepared.distinct
      rw [files] at distinct
      exact fun other before =>
        (List.pairwise_append.mp distinct).2.2 other before file List.mem_cons_self
    obtain ⟨v, document⟩ := t.exists_document positive scene
    have writable := prepared.writable file member s scene
    have made := writable.folder
    rw [t.parent_pathFor] at made
    have written : Json.write v = some _ := if_pos (prepared.fits file member s v scene document)
    obtain ⟨after, saved, effect⟩ := Disk.save_of_writable (reached.writable writable new) written
    rw [← t.save_of_document document] at saved
    obtain ⟨line, work⟩ := renderFile_of_scene console (prepared.plainTargets file member)
      (same.trans scene) saved
    have done : fails disk file = false := by rw [fails, scene]
    exact ⟨after, line, .wrote, work, done.symm,
      reached.saved made new scene document written effect⟩

/-- The work on files whose failures can be printed comes to whatever is to be done after them. -/
theorem renderFiles_append {done before rest : List Path}
    (files : disk.requestFiles folder = done ++ (before ++ rest)) {d : Disk}
    (reached : Reached t disk d done) (failed : Bool)
    (speak : ∀ file ∈ before, Speaks console disk file) :
    ∃ after printed, Reached t disk after (done ++ before) ∧ ∀ later,
      renderFiles console t d failed (before ++ later) =
        let rest := renderFiles console t after (failed || before.any (fails disk)) later
        ⟨rest.disk, printed ++ rest.printed, rest.ending⟩ := by
  induction before generalizing done d failed with
  | nil =>
    refine ⟨d, "", by rwa [List.append_nil], ?_⟩
    simp
  | cons file before ih =>
    rw [List.forall_mem_cons] at speak
    obtain ⟨next, line, result, work, which, further⟩ :=
      renderFile_step prepared positive files reached speak.1
    obtain ⟨after, printed, reached, run⟩ :=
      ih (by simpa using files) further (failed || fails disk file) speak.2
    refine ⟨after, line ++ printed, by simpa using reached, fun later => ?_⟩
    rw [List.cons_append, renderFiles, work]
    simp only [which, run later, List.any_cons, Bool.or_assoc, String.append_assoc]

/-- All failures can be printed: every scene is written, and the exit code tells of a failure. -/
theorem renderFiles_of_speaks
    (speak : ∀ file ∈ disk.requestFiles folder, Speaks console disk file) :
    (renderFiles console t disk false (disk.requestFiles folder)).ending =
        .exit (if (disk.requestFiles folder).any (fails disk) then 1 else 0) ∧
      ∀ file ∈ disk.requestFiles folder, ∀ s, sceneOf disk file = .ok s →
        t.Holds (renderFiles console t disk false (disk.requestFiles folder)).disk file s := by
  have files : disk.requestFiles folder = [] ++ (disk.requestFiles folder ++ []) := by simp
  obtain ⟨last, _, reached, work⟩ := renderFiles_append prepared positive files
    (reached_nil t disk) false speak
  have done := work []
  rw [List.append_nil] at done
  rw [done]
  exact ⟨by simp [renderFiles], reached.wrote⟩

end Run

/-- Where and how a run writes. -/
def targetOf (seeds : Path → Seeds) (o : RenderOptions) (settings : Settings) (format : Format) :
    Target :=
  ⟨o.outputDir.getD settings.outputDir, format, o.unitSize.getD settings.unitSize, seeds⟩

theorem one_le_unitSize_targetOf {seeds : Path → Seeds} {env : Environment} {words : List String}
    {disk : Disk} {o : RenderOptions} {settings : Settings} {format : Format}
    (asked : Invocation.ofWords words = some (.render o))
    (resolved : Settings.resolve env o.config disk = .ok settings) :
    1 ≤ (targetOf seeds o settings format).unitSize := by
  cases given : o.unitSize with
  | none =>
    simp only [targetOf, given, Option.getD_none]
    exact Settings.unitSize_pos_of_resolve resolved
  | some n =>
    simp only [targetOf, given, Option.getD_some]
    exact Invocation.unitSize_pos_of_ofWords asked given

/-- A run whose settings and format are known works on the request files in turn. Where there are
none it says so. -/
theorem run_of_settings {console : Console} {seeds : Path → Seeds} {env : Environment}
    {words : List String} {disk : Disk} {o : RenderOptions} {settings : Settings} {format : Format}
    (asked : Invocation.ofWords words = some (.render o))
    (resolved : Settings.resolve env o.config disk = .ok settings)
    (known : Format.ofName? (formatName o.format settings) = some format)
    (plain : '[' ∉ (o.inputDir.getD settings.inputDir).toString.toList) :
    ∃ printed, run console seeds env words disk =
      ⟨(renderFiles console (targetOf seeds o settings format) disk false
          (disk.requestFiles (o.inputDir.getD settings.inputDir))).disk, printed,
        (renderFiles console (targetOf seeds o settings format) disk false
          (disk.requestFiles (o.inputDir.getD settings.inputDir))).ending⟩ := by
  simp only [run, asked, render, resolved, known]
  split
  · rename_i none
    obtain ⟨line, shown⟩ := Console.line_of_check (check_noFiles console plain)
    refine ⟨line, ?_⟩
    simp only [finish, shown, none, renderFiles]
    rfl
  · exact ⟨_, rfl⟩

/-- The words of a run from the folder `ir` to the folder `out`. -/
def irToOut : List String := ["render", "--input-dir", "ir", "--output-dir", "out"]

def irToOutOptions : RenderOptions :=
  ⟨some ⟨.relative, ["ir"]⟩, some ⟨.relative, ["out"]⟩, none, none, none⟩

/-- A disk with two request files in the folder `ir` of its working folder, the second one for a
number. -/
def besideNumber (first : Json.Value) : Disk :=
  (((Disk.startingIn ["w"]).put ["w", "ir"] .folder).put ["w", "ir", "b.json"]
    (.file (String.ofList (Json.layout 0
      (.obj [("type", .obj [("kind", .str "float")])]))).toUTF8)).put ["w", "ir", "a.json"]
        (.file (String.ofList (Json.layout 0 first)).toUTF8)

/-- A request whose type is of the kind `[/]`. -/
def closingKind : Json.Value := .obj [("type", .obj [("kind", .str "[/]")])]

theorem storable_kind (kind : String) :
    Json.Storable (.obj [("type", .obj [("kind", .str kind)])]) :=
  .obj (by simp) (List.forall_mem_singleton.mpr
    (.obj (by simp) (List.forall_mem_singleton.mpr (.str kind))))

theorem requestFiles_besideNumber (first : Json.Value) :
    (besideNumber first).requestFiles ⟨.relative, ["ir"]⟩ =
      [⟨.relative, ["ir", "a.json"]⟩, ⟨.relative, ["ir", "b.json"]⟩] := by
  have names : (besideNumber first).list ⟨.relative, ["ir"]⟩ = ["a.json", "b.json"] := by
    show List.mergeSort ["a.json", "b.json"] _ = _
    exact List.mergeSort_of_pairwise (by simp)
  rw [Disk.requestFiles, names]
  rfl

theorem sceneOf_besideNumber (first : Json.Value) :
    sceneOf (besideNumber first) ⟨.relative, ["ir", "b.json"]⟩ = .ok ⟨"b", [.unit], 1, 1⟩ := by
  have content : (besideNumber first).read ⟨.relative, ["ir", "b.json"]⟩ = .ok _ := rfl
  simp only [sceneOf, Disk.loadRequest, Disk.loadObject, content,
    Json.readBytes_layout (storable_kind "float")]
  rfl

theorem folders_apart_besideNumber (first : Json.Value) :
    ((besideNumber first).ensureFolders ⟨.relative, ["out"]⟩).1.locate ⟨.relative, ["ir"]⟩ ≠
      ((besideNumber first).ensureFolders ⟨.relative, ["out"]⟩).1.locate ⟨.relative, ["out"]⟩ := by
  have input : ((besideNumber first).ensureFolders ⟨.relative, ["out"]⟩).1.locate
      ⟨.relative, ["ir"]⟩ = .ok ["w", "ir"] := rfl
  have output : ((besideNumber first).ensureFolders ⟨.relative, ["out"]⟩).1.locate
      ⟨.relative, ["out"]⟩ = .ok ["w", "out"] := rfl
  intro same
  have places := input.symm.trans (same.trans output)
  exact absurd places (by decide)

/-- The paths of a run from `ir` to `out` are as they should be. -/
theorem tidy_besideNumber (seeds : Path → Seeds) (first : Json.Value) :
    Tidy (targetOf seeds irToOutOptions .default .scene) (besideNumber first)
      ⟨.relative, ["ir"]⟩ := by
  have files := requestFiles_besideNumber first
  have targetA : (targetOf seeds irToOutOptions .default .scene).pathFor
      ⟨.relative, ["ir", "a.json"]⟩ = ⟨.relative, ["out", "a.scene.json"]⟩ := rfl
  have targetB : (targetOf seeds irToOutOptions .default .scene).pathFor
      ⟨.relative, ["ir", "b.json"]⟩ = ⟨.relative, ["out", "b.scene.json"]⟩ := rfl
  constructor
  case distinct =>
    rw [files, List.pairwise_pair, targetA, targetB]
    decide
  case apart =>
    exact fun file member _ _ loc leads =>
      not_uses_of_apart (folders_apart_besideNumber first) member leads
  case plainFolder => decide
  case plainFiles =>
    rw [files]
    decide
  case plainTargets =>
    rw [files]
    simp only [List.forall_mem_cons, targetA, targetB]
    exact ⟨by decide, by decide, List.forall_mem_nil _⟩

/-- If the first request has no scene, a run from `ir` to `out` has all that it needs. -/
theorem prepared_besideNumber (seeds : Path → Seeds) {first : Json.Value}
    (refused : fails (besideNumber first) ⟨.relative, ["ir", "a.json"]⟩ = true) :
    Prepared (targetOf seeds irToOutOptions .default .scene) (besideNumber first)
      ⟨.relative, ["ir"]⟩ := by
  have files := requestFiles_besideNumber first
  have tidy := tidy_besideNumber seeds first
  have fresh : (besideNumber first).Writable ⟨.relative, ["out", "b.scene.json"]⟩ := by
    refine ⟨by decide, rfl, ?_, ?_⟩ <;>
      · intro folder
        cases folder
  constructor
  case readable =>
    rw [files]
    simp only [List.forall_mem_cons]
    exact ⟨⟨_, rfl⟩, ⟨_, rfl⟩, List.forall_mem_nil _⟩
  case writable =>
    rw [files]
    simp only [List.forall_mem_cons]
    refine ⟨fun s scene => ?_, fun _ _ => fresh, List.forall_mem_nil _⟩
    rw [fails, scene] at refused
    cases refused
  case apart => exact folders_apart_besideNumber first
  case distinct => exact tidy.distinct
  case plainFolder => exact tidy.plainFolder
  case plainFiles => exact tidy.plainFiles
  case plainTargets => exact tidy.plainTargets
  case fits =>
    rw [files]
    simp only [List.forall_mem_cons]
    refine ⟨fun s _ scene => ?_, fun s v scene document => ?_, List.forall_mem_nil _⟩
    · rw [fails, scene] at refused
      cases refused
    · rw [sceneOf_besideNumber] at scene
      cases scene
      cases document
      rfl

end ArrayScene.Command

import ArrayScene.Proofs.Command.RenderRun
import ArrayScene.Proofs.Command.Reports
import ArrayScene.Proofs.Console.Outlines
import ArrayScene.Proofs.LegibleNodes
import ArrayScene.Proofs.Source.SizeTexts
import ArrayScene.Proofs.Store.PathText

/-!
# Agreement of the commands

The three commands take a request file through pipelines of their own and print different texts
about it, yet they all but accept the same files. `validate` succeeds if the file holds a request,
`inspect` if its node can be built as well and all numbers in its tree can be printed, under any
name that the request may have. Where the numbers of its scene can be written, `render` over a
folder with this file alone succeeds exactly if `inspect` does.
-/
namespace ArrayScene

namespace Disk

theorem loadObject_ok_iff {d : Disk} {p : Path} {fields : Json.Fields} :
    d.loadObject p = .ok fields ↔
      ∃ bytes, d.read p = .ok bytes ∧ Json.readBytes bytes = some (.obj fields) := by
  unfold loadObject
  cases d.read p with
  | error fault => simp
  | ok bytes =>
    simp only [Except.ok.injEq, exists_eq_left']
    cases Json.readBytes bytes with
    | none => simp
    | some v => cases v <;> simp

theorem loadRequest_ok_iff {d : Disk} {p : Path} {r : Request} :
    d.loadRequest p = .ok r ↔ ∃ fields, d.loadObject p = .ok fields ∧
      Request.ofJson (.obj (Json.putNew "name" (.str p.stem) fields)) = .ok r := by
  unfold loadRequest
  cases d.loadObject p with
  | error failure => simp [bind, Except.bind]
  | ok fields =>
    simp only [bind, Except.bind, Except.ok.injEq, exists_eq_left']
    split <;> simp [*]

/-- From one place and under one stem the same request is loaded. -/
theorem loadRequest_ok_congr {d : Disk} {p q : Path} (place : d.locate p = d.locate q)
    (stems : p.stem = q.stem) {r : Request} :
    d.loadRequest p = .ok r ↔ d.loadRequest q = .ok r := by
  have content : d.read p = d.read q := by
    simp only [read, look, place]
  simp only [loadRequest_ok_iff, loadObject_ok_iff, content, stems]

/-- A request that is loaded has a name and positive sizes. -/
theorem valid_of_loadRequest {d : Disk} {p : Path} {r : Request}
    (loaded : d.loadRequest p = .ok r) : r.Valid := by
  obtain ⟨fields, _, read⟩ := loadRequest_ok_iff.mp loaded
  exact valid_of_describesRequest (Request.ofJson_eq_ok_iff.mp read)

end Disk

namespace Command

theorem ending_finish_one (console : Console) (disk : Disk) (text : String) :
    (finish console disk text 1).ending ≠ .exit 0 := by
  unfold finish
  split <;> nofun

theorem ending_finish_zero {console : Console} (disk : Disk) {text : String}
    (readable : Markup.check console (Markup.tokens text.toList) = .ok ()) :
    (finish console disk text 0).ending = .exit 0 := by
  obtain ⟨shown, line⟩ := Console.line_of_check readable
  simp only [finish, line]

theorem check_valid (console : Console) {path : String} (plain : '[' ∉ path.toList) :
    Markup.check console (Markup.tokens ("[green]Valid IR file:[/] " ++ path).toList) = .ok () := by
  have text : ("[green]Valid IR file:[/] " ++ path).toList =
      '[' :: ("green".toList ++ ']' :: ("Valid IR file".toList ++ ':' :: '[' :: '/' :: ']' ::
        (' ' :: path.toList))) := by
    simp
  rw [text, Markup.check_styled (by decide) (by decide) (by decide) (by decide)]
  exact Markup.check_of_no_bracket console (by simp [plain])

section Files

variable (console : Console) {disk : Disk} {file : Path}

/-- `validate` succeeds on the files that hold a request. -/
theorem validate_exit_zero_iff (there : disk.has file = true)
    (plain : '[' ∉ file.toString.toList) :
    (validate console file disk).ending = .exit 0 ↔ ∃ r, disk.loadRequest file = .ok r := by
  rw [validate, if_pos there]
  split
  · rename_i failure refused
    rw [refused]
    split
    · simp [ending_finish_one]
    · simp
  · rename_i r loaded
    rw [loaded]
    simp [ending_finish_zero disk (check_valid console plain)]

theorem nodeOf_ok_iff {name : String} {node : Node} :
    nodeOf disk file = .ok (name, node) ↔ ∃ r, disk.loadRequest file = .ok r ∧
      r.name = name ∧ Node.ofSubject pairwise r.subject = .ok node := by
  unfold nodeOf
  cases disk.loadRequest file with
  | error failure => simp [bind, Except.bind]
  | ok r =>
    simp only [bind, Except.bind]
    cases built : Node.ofSubject pairwise r.subject <;> simp [built]

section Built

variable {env : Environment} {config : Option Path} {settings : Settings} {r : Request}
  {node : Node} (there : disk.has file = true)
  (resolved : Settings.resolve env config disk = .ok settings)
  (loaded : disk.loadRequest file = .ok r)
  (built : Node.ofSubject pairwise r.subject = .ok node)
include there resolved loaded built

/-- `inspect` prints the tree of a request whose node can be built, -/
theorem inspect_of_tree {text : String} (tree : treeText console r.name node = .ok text) :
    inspect console env file config disk = ⟨disk, text, .exit 0⟩ := by
  have found : nodeOf disk file = .ok (r.name, node) := nodeOf_ok_iff.mpr ⟨r, loaded, rfl, built⟩
  simp only [inspect, resolved, there, if_true, found, tree]

/-- and nothing, not even the name, of one that is not legible. -/
theorem inspect_of_not_legible (long : ¬node.Legible) :
    inspect console env file config disk = ⟨disk, "", .escaped .digitLimit⟩ := by
  have found : nodeOf disk file = .ok (r.name, node) := nodeOf_ok_iff.mpr ⟨r, loaded, rfl, built⟩
  have stuck := treeText_of_not_legible (Node.sized_of_ofSubject built) console r.name long
  simp only [inspect, resolved, there, if_true, found, stuck]

end Built

/-- `inspect` succeeds on the files that hold a request whose node can be built and is legible, if
the settings can be loaded. -/
theorem inspect_exit_zero_iff {env : Environment} {config : Option Path}
    (there : disk.has file = true) :
    (inspect console env file config disk).ending = .exit 0 ↔
      (∃ settings, Settings.resolve env config disk = .ok settings) ∧
        ∃ r node, disk.loadRequest file = .ok r ∧
          Node.ofSubject pairwise r.subject = .ok node ∧ node.Legible := by
  cases resolved : Settings.resolve env config disk with
  | error failure => simp [inspect, resolved]
  | ok settings =>
    simp only [Except.ok.injEq, exists_eq', true_and]
    cases found : nodeOf disk file with
    | error failure =>
      have none : ¬∃ r node, disk.loadRequest file = .ok r ∧
          Node.ofSubject pairwise r.subject = .ok node ∧ node.Legible := by
        rintro ⟨r, node, loaded, built, _⟩
        have accepted := nodeOf_ok_iff.mpr ⟨r, loaded, rfl, built⟩
        rw [found] at accepted
        cases accepted
      simp only [inspect, resolved, there, if_true, found, none, iff_false]
      split
      · exact ending_finish_one console disk _
      · nofun
    | ok named =>
      obtain ⟨name, node⟩ := named
      obtain ⟨r, loaded, _, built⟩ := nodeOf_ok_iff.mp found
      constructor
      · intro zero
        refine ⟨r, node, loaded, built, ?_⟩
        by_contra long
        rw [inspect_of_not_legible console there resolved loaded built long] at zero
        cases zero
      · rintro ⟨r', node', loaded', built', legible⟩
        cases loaded.symm.trans loaded'
        cases built.symm.trans built'
        have sized := Node.sized_of_ofSubject built
        obtain ⟨_, _, _, _, printed⟩ := treeText_of_legible sized console r.name legible
        rw [inspect_of_tree console there resolved loaded built printed]

theorem sceneOf_ok_iff {s : Scene} :
    sceneOf disk file = .ok s ↔
      ∃ r, disk.loadRequest file = .ok r ∧ Scene.render pairwise r = .ok s := by
  unfold sceneOf
  cases disk.loadRequest file with
  | error failure => simp [bind, Except.bind]
  | ok r =>
    simp only [bind, Except.bind]
    cases rendered : Scene.render pairwise r <;> simp [rendered]

/-- A request has a scene exactly if its node can be built. -/
theorem sceneOf_exists_iff :
    (∃ s, sceneOf disk file = .ok s) ↔ ∃ r node, disk.loadRequest file = .ok r ∧
      Node.ofSubject pairwise r.subject = .ok node := by
  constructor
  · rintro ⟨s, scene⟩
    obtain ⟨r, loaded, rendered⟩ := sceneOf_ok_iff.mp scene
    obtain ⟨node, built, _⟩ := exists_of_bind_eq_ok rendered
    exact ⟨r, node, loaded, built⟩
  · rintro ⟨r, node, loaded, built⟩
    cases rendered : Scene.render pairwise r with
    | ok s => exact ⟨s, sceneOf_ok_iff.mpr ⟨r, loaded, rendered⟩⟩
    | error fault =>
      rw [Scene.render_eq_error_iff, built] at rendered
      cases rendered

end Files

/-- What a run over the folder of a single request file needs: nothing else in the folder, no
brackets in the path of the output folder, and, if the file has a scene, a target in which its
document can be written. The folder may be named otherwise than in the path of the file. -/
structure Alone (t : Target) (disk : Disk) (folder file : Path) : Prop where
  only : disk.list folder = [file.name]
  request : ".json".toList.isSuffixOf file.name.toList = true
  same : disk.locate (folder.child file.name) = disk.locate file
  plainOutput : '[' ∉ t.folder.toString.toList
  writable : ∀ s, sceneOf disk file = .ok s → disk.Writable (t.pathFor file)
  fits : ∀ s v, sceneOf disk file = .ok s → t.documentOf (folder.child file.name) s = .ok v →
    Json.writable v = true

namespace Alone

variable {t : Target} {disk : Disk} {folder file : Path} (alone : Alone t disk folder file)
include alone

theorem requestFiles : disk.requestFiles folder = [folder.child file.name] := by
  rw [Disk.requestFiles, alone.only, List.filter_cons, if_pos alone.request]
  rfl

theorem sceneOf_child {s : Scene} :
    sceneOf disk (folder.child file.name) = .ok s ↔ sceneOf disk file = .ok s := by
  simp only [sceneOf_ok_iff,
    Disk.loadRequest_ok_congr alone.same (Path.stem_child_name folder file)]

/-- The document of the scene, if the file has one. -/
theorem exists_document (positive : 1 ≤ t.unitSize) {s : Scene}
    (scene : sceneOf disk file = .ok s) :
    ∃ v, t.documentOf (folder.child file.name) s = .ok v ∧ Json.writable v = true := by
  obtain ⟨v, document⟩ := t.exists_document positive (alone.sceneOf_child.mpr scene)
  exact ⟨v, document, alone.fits s v scene document⟩

end Alone

/-- The document of a scene has the integers of its primitives. -/
theorem Target.measures_of_writable {t : Target} {file : Path} {s : Scene} {v : Json.Value}
    (document : t.documentOf file s = .ok v) (fits : Json.writable v = true) :
    ∀ p ∈ s.primitives, ∀ n ∈ p.measures, Json.inWordRange n = true := by
  unfold documentOf at document
  cases format : t.format with
  | scene =>
    rw [format] at document
    cases document
    exact (Scene.writable_toJson.mp fits).1.primitives
  | sketch =>
    rw [format] at document
    obtain ⟨sketch, converted, rfl⟩ := exists_of_map_eq_ok document
    exact Sketch.measures_of_writable converted fits

/-- Where its document can be written, a file has a scene exactly if its node can be built and is
legible. -/
theorem Alone.sceneOf_exists_iff {t : Target} {disk : Disk} {folder file : Path}
    (alone : Alone t disk folder file) (positive : 1 ≤ t.unitSize) :
    (∃ s, sceneOf disk file = .ok s) ↔ ∃ r node, disk.loadRequest file = .ok r ∧
      Node.ofSubject pairwise r.subject = .ok node ∧ node.Legible := by
  constructor
  · rintro ⟨s, scene⟩
    obtain ⟨v, document, fits⟩ := alone.exists_document positive scene
    obtain ⟨r, loaded, rendered⟩ := sceneOf_ok_iff.mp scene
    obtain ⟨node, built, _⟩ := exists_of_bind_eq_ok rendered
    have measures := Target.measures_of_writable document fits
    exact ⟨r, node, loaded, built,
      Node.legible_of_measures (Disk.valid_of_loadRequest loaded) built rendered measures⟩
  · rintro ⟨r, node, loaded, built, _⟩
    exact Command.sceneOf_exists_iff.mpr ⟨r, node, loaded, built⟩

/-- The target for a file brings no bracket with it. -/
theorem Target.plain_pathFor {t : Target} {file : Path} (folder : '[' ∉ t.folder.toString.toList)
    (plain : '[' ∉ file.toString.toList) : '[' ∉ (t.pathFor file).toString.toList := by
  have ending : '[' ∉ t.format.ending.toList := by
    cases t.format <;> decide
  rw [Path.mem_toString_iff (by decide) (by decide)] at folder ⊢
  rintro ⟨part, listed, bracket⟩
  rcases List.mem_append.mp listed with within | last
  · exact folder ⟨part, within, bracket⟩
  · rw [List.mem_singleton.mp last, String.toList_append, List.mem_append] at bracket
    rcases bracket with stem | other
    · exact plain (Path.mem_toString_of_mem_stem (by decide) (by decide) stem)
    · exact ending other

section Single

variable {console : Console} {t : Target} {disk : Disk}

/-- Over one file the work succeeds if its scene is written. -/
theorem renderFiles_single_exit_zero_iff {file : Path} :
    (renderFiles console t disk false [file]).ending = .exit 0 ↔
      ∃ after line, renderFile console t disk file = (after, .ok (line, .wrote)) := by
  rw [renderFiles]
  rcases renderFile console t disk file with ⟨after, failure | ⟨line, result⟩⟩
  · simp
  · cases result <;> simp [renderFiles]

/-- Over a folder with one request file the work succeeds if the file has a scene. -/
theorem renderFiles_alone_exit_zero_iff (positive : 1 ≤ t.unitSize) {folder file : Path}
    (alone : Alone t disk folder file) (plain : '[' ∉ file.toString.toList) :
    (renderFiles console t disk false (disk.requestFiles folder)).ending = .exit 0 ↔
      ∃ s, sceneOf disk file = .ok s := by
  have target : t.pathFor (folder.child file.name) = t.pathFor file := by
    rw [Target.pathFor, Path.stem_child_name]
    rfl
  rw [alone.requestFiles, renderFiles_single_exit_zero_iff]
  constructor
  · rintro ⟨after, line, wrote⟩
    cases fileWork_of_renderFile wrote with
    | wrote scene _ _ => exact ⟨_, alone.sceneOf_child.mp scene⟩
  · rintro ⟨s, scene⟩
    obtain ⟨v, document, fits⟩ := alone.exists_document positive scene
    have writable := alone.writable s scene
    have plainTarget := t.plain_pathFor alone.plainOutput plain
    rw [← target] at writable plainTarget
    obtain ⟨after, saved⟩ := t.save_ok_iff.mpr ⟨writable, v, document, fits⟩
    obtain ⟨line, wrote⟩ :=
      renderFile_of_scene console plainTarget (alone.sceneOf_child.mpr scene) saved
    exact ⟨after, line, wrote⟩

end Single

/-- The commands accept the same files. On a path that leads somewhere and has no brackets,
`validate` succeeds exactly if a request can be loaded from it; `inspect` succeeds exactly if the
settings can be loaded, a request can, its node can be built, and every number in the tree of the
node has few enough digits to be printed. With more digits than that it prints nothing and ends for
that reason, and for no other does a tree fail to be printed, whatever the name is. So what
`inspect` accepts `validate` accepts. Where the file is the only one in its folder, and there are
settings, a known format, a target that can be written, and a document whose integers can be,
`render` over the folder succeeds exactly if `inspect` does. -/
theorem commands_agree (console : Console) {seeds : Path → Seeds} {env : Environment} {disk : Disk}
    {file : Path} (there : disk.has file = true) (plain : '[' ∉ file.toString.toList) :
    (∀ words, Invocation.ofWords words = some (.validate file) →
      ((run console seeds env words disk).ending = .exit 0 ↔
        ∃ r, disk.loadRequest file = .ok r)) ∧
    (∀ words config, Invocation.ofWords words = some (.inspect file config) →
      ((run console seeds env words disk).ending = .exit 0 ↔
        (∃ settings, Settings.resolve env config disk = .ok settings) ∧
          ∃ r node, disk.loadRequest file = .ok r ∧
            Node.ofSubject pairwise r.subject = .ok node ∧ node.Legible) ∧
      ∀ settings r node, Settings.resolve env config disk = .ok settings →
        disk.loadRequest file = .ok r → Node.ofSubject pairwise r.subject = .ok node →
        ¬node.Legible → run console seeds env words disk = ⟨disk, "", .escaped .digitLimit⟩) ∧
    (∀ s node name, Node.ofSubject pairwise s = .ok node →
      (node.Legible → ∃ text, treeText console name node = .ok text) ∧
        (¬node.Legible → treeText console name node = .error .digitLimit)) ∧
    (∀ words words' config, Invocation.ofWords words = some (.inspect file config) →
      Invocation.ofWords words' = some (.validate file) →
      (run console seeds env words disk).ending = .exit 0 →
      (run console seeds env words' disk).ending = .exit 0) ∧
    ∀ words words' o settings format, Invocation.ofWords words = some (.render o) →
      Invocation.ofWords words' = some (.inspect file o.config) →
      Settings.resolve env o.config disk = .ok settings →
      Format.ofName? (formatName o.format settings) = some format →
      Alone (targetOf seeds o settings format) disk (o.inputDir.getD settings.inputDir) file →
      ((run console seeds env words disk).ending = .exit 0 ↔
        (run console seeds env words' disk).ending = .exit 0) := by
  have validates : ∀ words, Invocation.ofWords words = some (.validate file) →
      ((run console seeds env words disk).ending = .exit 0 ↔
        ∃ r, disk.loadRequest file = .ok r) := by
    intro words asked
    simp only [run, asked]
    exact validate_exit_zero_iff console there plain
  have inspects : ∀ words config, Invocation.ofWords words = some (.inspect file config) →
      ((run console seeds env words disk).ending = .exit 0 ↔
        (∃ settings, Settings.resolve env config disk = .ok settings) ∧
          ∃ r node, disk.loadRequest file = .ok r ∧
            Node.ofSubject pairwise r.subject = .ok node ∧ node.Legible) := by
    intro words config asked
    simp only [run, asked]
    exact inspect_exit_zero_iff console there
  refine ⟨validates, fun words config asked => ⟨inspects words config asked, ?escapes⟩, ?trees,
    ?narrower, ?renders⟩
  case escapes =>
    intro settings r node resolved loaded built long
    simp only [run, asked]
    exact inspect_of_not_legible console there resolved loaded built long
  case trees =>
    intro s node name built
    have sized := Node.sized_of_ofSubject built
    refine ⟨fun legible => ?_, treeText_of_not_legible sized console name⟩
    obtain ⟨_, _, _, _, printed⟩ := treeText_of_legible sized console name legible
    exact ⟨_, printed⟩
  case narrower =>
    intro words words' config asked asked' accepted
    obtain ⟨_, r, _, loaded, _⟩ := (inspects words config asked).mp accepted
    exact (validates words' asked').mpr ⟨r, loaded⟩
  case renders =>
    intro words words' o settings format asked asked' resolved known alone
    have positive : 1 ≤ (targetOf seeds o settings format).unitSize :=
      one_le_unitSize_targetOf asked resolved
    have ending : (run console seeds env words disk).ending =
        (renderFiles console (targetOf seeds o settings format) disk false
          (disk.requestFiles (o.inputDir.getD settings.inputDir))).ending := by
      simp only [run, asked, render, resolved, known]
      split
      · rename_i none
        rw [alone.requestFiles] at none
        cases none
      · rfl
    rw [ending, renderFiles_alone_exit_zero_iff positive alone plain,
      alone.sceneOf_exists_iff positive, inspects words' o.config asked', resolved]
    simp

/-- A disk with a single request file in the folder `ir` of its working folder. -/
def onlyRequest (v : Json.Value) : Disk :=
  ((Disk.startingIn ["w"]).put ["w", "ir"] .folder).put ["w", "ir", "a.json"]
    (.file (String.ofList (Json.layout 0 v)).toUTF8)

theorem loadRequest_onlyRequest {fields : Json.Fields} {r : Request}
    (storable : Json.Storable (.obj fields))
    (read : Request.ofJson (.obj (Json.putNew "name" (.str "a") fields)) = .ok r) :
    (onlyRequest (.obj fields)).loadRequest ⟨.relative, ["ir", "a.json"]⟩ = .ok r := by
  have content : (onlyRequest (.obj fields)).read ⟨.relative, ["ir", "a.json"]⟩ =
      .ok (String.ofList (Json.layout 0 (.obj fields))).toUTF8 := rfl
  rw [Disk.loadRequest_ok_iff]
  exact ⟨fields, Disk.loadObject_ok_iff.mpr ⟨_, content, Json.readBytes_layout storable⟩, read⟩

/-- A request for a number under a name that is a closing tag before two backslashes. -/
def closingName : Json.Value :=
  .obj [("name", .str "[/]\\\\"), ("type", .obj [("kind", .str "float")])]

theorem loadRequest_closingName :
    (onlyRequest closingName).loadRequest ⟨.relative, ["ir", "a.json"]⟩ =
      .ok ⟨"[/]\\\\", .type .float⟩ := by
  have storable : Json.Storable closingName :=
    .obj (by simp) (List.forall_mem_cons.mpr ⟨.str _, List.forall_mem_singleton.mpr
      (.obj (by simp) (List.forall_mem_singleton.mpr (.str _)))⟩)
  exact loadRequest_onlyRequest storable rfl

theorem alone_closingName (seeds : Path → Seeds) :
    Alone (targetOf seeds irToOutOptions .default .scene) (onlyRequest closingName)
      ⟨.relative, ["ir"]⟩ ⟨.relative, ["ir", "a.json"]⟩ := by
  constructor
  case only =>
    show List.mergeSort ["a.json"] _ = _
    exact List.mergeSort_singleton _
  case request => decide
  case same => rfl
  case plainOutput =>
    show '[' ∉ (⟨.relative, ["out"]⟩ : Path).toString.toList
    decide
  case writable =>
    refine fun _ _ => ⟨Target.name_pathFor_ne _ _, rfl, ?_, ?_⟩ <;>
      · intro folder
        cases folder
  case fits =>
    intro s v scene document
    obtain ⟨r, loaded, rendered⟩ := sceneOf_ok_iff.mp scene
    cases loadRequest_closingName.symm.trans loaded
    cases rendered
    cases document
    rfl

/-- A name that closes a tag and ends in backslashes is accepted by all three commands. -/
theorem commands_agree_closing_name :
    let disk := onlyRequest closingName
    let file : Path := ⟨.relative, ["ir", "a.json"]⟩
    let runOf (words : List String) := run .plain (fun _ _ => (5, 7)) [] words disk
    disk.has file = true ∧ '[' ∉ file.toString.toList ∧
      Alone (targetOf (fun _ _ => (5, 7)) irToOutOptions .default .scene) disk
        ⟨.relative, ["ir"]⟩ file ∧
      (runOf ["validate", "ir/a.json"]).ending = .exit 0 ∧
      (runOf ["inspect", "ir/a.json"]).ending = .exit 0 ∧
      (runOf irToOut).ending = .exit 0 := by
  intro disk file runOf
  have there : disk.has file = true := rfl
  have plain : '[' ∉ file.toString.toList := by decide
  have asked : Invocation.ofWords irToOut = some (.render irToOutOptions) := rfl
  have asked' : Invocation.ofWords ["inspect", "ir/a.json"] = some (.inspect file none) := rfl
  have asked'' : Invocation.ofWords ["validate", "ir/a.json"] = some (.validate file) := rfl
  have resolved : Settings.resolve [] none disk = .ok .default := rfl
  have known : Format.ofName? (formatName none .default) = some .scene := rfl
  have alone := alone_closingName fun _ _ => (5, 7)
  obtain ⟨_, inspects, _, narrower, renders⟩ :=
    @commands_agree .plain (fun _ _ => (5, 7)) [] disk file there plain
  have legible : Node.float.Legible :=
    (Node.IsBuilt.value .float).legible rfl rfl (by decide) (by decide)
  have inspected : (runOf ["inspect", "ir/a.json"]).ending = .exit 0 :=
    (inspects _ none asked').1.mpr
      ⟨⟨_, resolved⟩, _, .float, loadRequest_closingName, rfl, legible⟩
  exact ⟨there, plain, alone, narrower _ _ none asked' asked'' inspected, inspected,
    (renders _ _ _ _ _ asked asked' resolved known alone).mpr inspected⟩

/-- A request for one row of rows of numbers, with as many numbers in each as there are rows. The
sizes are given as texts. -/
def rowOfRows (n : Int) : Json.Value :=
  .obj [("type", textArray n (textArray 1 (textArray n (.obj [("kind", .str "float")]))))]

section RowOfRows

variable {n : Int}

theorem loadRequest_rowOfRows (positive : 0 < n)
    (short : Decimal.digitCount n ≤ Decimal.digitLimit) :
    (onlyRequest (rowOfRows n)).loadRequest ⟨.relative, ["ir", "a.json"]⟩ =
      .ok ⟨"a", .type (.array (.array (.array .float n) 1) n)⟩ := by
  have float : Json.Storable (.obj [("kind", .str "float")]) :=
    .obj (by simp) (List.forall_mem_singleton.mpr (.str _))
  have storable : Json.Storable (rowOfRows n) :=
    .obj (by simp) (List.forall_mem_singleton.mpr
      (storable_textArray (storable_textArray (storable_textArray float n) 1) n))
  have number : DescribesType (.obj [("kind", .str "float")]) .float := .float rfl
  have row := describesType_textArray number positive short
  have single : Decimal.digitCount 1 ≤ Decimal.digitLimit := by decide
  have rows := describesType_textArray row Int.one_pos single
  have type := describesType_textArray rows positive short
  apply loadRequest_onlyRequest storable
  exact Request.ofJson_eq_ok_iff.mpr (.type (.inr ⟨rfl, by decide⟩) rfl type (.inl rfl))

theorem ofSubject_rowOfRows :
    Node.ofSubject pairwise (.type (.array (.array (.array .float n) 1) n)) =
      .ok (.grid (.linear .float n) n 1) := rfl

/-- The row is as long as the product of its sizes. -/
theorem not_legible_rowOfRows (long : ¬Decimal.digitCount (n * n) ≤ Decimal.digitLimit) :
    ¬(Node.grid (.linear .float n) n 1).Legible := by
  intro legible
  have width : (Node.grid (.linear .float n) n 1).width = .ok (1 * n * n) := rfl
  have wide := legible _ .here (1 * n * n) (.width width)
  rw [Int.one_mul] at wide
  exact long wide

end RowOfRows

/-- The least number of 3000 digits. -/
def longSize : Int := 10 ^ 2999

theorem digitCount_longSize : Decimal.digitCount longSize ≤ Decimal.digitLimit :=
  Decimal.digitCount_ten_pow_le_iff.mpr (by decide)

theorem digitCount_longSize_mul :
    ¬Decimal.digitCount (longSize * longSize) ≤ Decimal.digitLimit := by
  rw [longSize, ← Int.pow_add, Decimal.digitCount_ten_pow_le_iff]
  decide

theorem loadRequest_longRow :
    (onlyRequest (rowOfRows longSize)).loadRequest ⟨.relative, ["ir", "a.json"]⟩ =
      .ok ⟨"a", .type (.array (.array (.array .float longSize) 1) longSize)⟩ := by
  have positive : 0 < longSize := Int.pow_pos (by decide)
  exact loadRequest_rowOfRows positive digitCount_longSize

theorem inspect_longRow (console : Console) :
    inspect console [] ⟨.relative, ["ir", "a.json"]⟩ none (onlyRequest (rowOfRows longSize)) =
      ⟨onlyRequest (rowOfRows longSize), "", .escaped .digitLimit⟩ := by
  have there : (onlyRequest (rowOfRows longSize)).has ⟨.relative, ["ir", "a.json"]⟩ = true := rfl
  have long := not_legible_rowOfRows digitCount_longSize_mul
  exact inspect_of_not_legible console there rfl loadRequest_longRow ofSubject_rowOfRows long

/-- A row of rows whose size has 3000 digits is a request, and its node can be built, but of its
width, which has more digits than may be printed, `inspect` ends with nothing printed. -/
theorem inspect_escapes_long_row :
    let disk := onlyRequest (rowOfRows longSize)
    let file : Path := ⟨.relative, ["ir", "a.json"]⟩
    let runOf (words : List String) := run .plain (fun _ _ => (5, 7)) [] words disk
    disk.has file = true ∧ '[' ∉ file.toString.toList ∧
      (∃ settings, Settings.resolve [] none disk = .ok settings) ∧
      (∃ r node, disk.loadRequest file = .ok r ∧
        Node.ofSubject pairwise r.subject = .ok node) ∧
      (runOf ["validate", "ir/a.json"]).ending = .exit 0 ∧
      (runOf ["inspect", "ir/a.json"]).ending = .escaped .digitLimit := by
  intro disk file runOf
  have there : disk.has file = true := rfl
  have plain : '[' ∉ file.toString.toList := by decide
  have asked : Invocation.ofWords ["validate", "ir/a.json"] = some (.validate file) := rfl
  have asked' : Invocation.ofWords ["inspect", "ir/a.json"] = some (.inspect file none) := rfl
  have resolved : Settings.resolve [] none disk = .ok .default := rfl
  have validated : (runOf ["validate", "ir/a.json"]).ending = .exit 0 := by
    simp only [runOf, run, asked]
    exact (validate_exit_zero_iff .plain there plain).mpr ⟨_, loadRequest_longRow⟩
  have inspected : (runOf ["inspect", "ir/a.json"]).ending = .escaped .digitLimit := by
    simp only [runOf, run, asked']
    rw [inspect_longRow]
  exact ⟨there, plain, ⟨_, resolved⟩, ⟨_, _, loadRequest_longRow, ofSubject_rowOfRows⟩, validated,
    inspected⟩

end Command

end ArrayScene

import ArrayScene.Proofs.Command.RenderRun
import ArrayScene.Proofs.Command.Reports

/-!
# Effect of a run of render

What a run of `render` leaves on the disk, however it ends. The targets of the files whose scene was
written hold it, as it was in the file before the run; nothing but targets and their drafts is
touched, and not those of the files that failed.
-/
namespace ArrayScene.Command

/-- What a run over request files has done, and what it has reported of them. -/
structure RenderEffect (console : Console) (t : Target) (disk : Disk) (files : List Path)
    (outcome : Outcome) (log : List FileReport) : Prop where
  worked : ∃ last, Worked console t disk log last
  printed : files ≠ [] → outcome.printed = String.join (log.map FileReport.line)
  accounted : ∀ r ∈ log, r.Accounted console t disk
  /-- All files were reported, or the run ended by a failure at the file after those that were. -/
  ends : ((∃ code, outcome.ending = .exit code) ∧ files = log.map FileReport.file) ∨
    ∃ failure file rest, outcome.ending = .escaped failure ∧
      ((∃ fault, failure = .disk fault) ∨ failure = .integerRange ∨
        ∃ fault, failure = .markup fault) ∧
      files = log.map FileReport.file ++ file :: rest
  succeeds : outcome.ending = .exit 0 ↔ ∀ file ∈ files, ∃ s, sceneOf disk file = .ok s ∧
    ∃ after, t.save disk file s = (after, .ok ())
  /-- The target of a file with a scene holds the scene as it was before the run. -/
  written : ∀ r ∈ log, ∀ s, sceneOf disk r.file = .ok s → t.Holds outcome.disk r.file s
  /-- The target of a file that failed is as it was. -/
  failed : ∀ r ∈ log, r.result = .failed → outcome.ending ≠ .exit 0 ∧
    ∀ loc, outcome.disk.locate (t.pathFor r.file) = .ok loc →
      outcome.disk.fileAt? loc = disk.fileAt? loc
  /-- So is every file in the place of no target and no draft. -/
  others : ∀ loc, (∀ file ∈ files, ¬t.Uses outcome.disk file loc) →
    outcome.disk.fileAt? loc = disk.fileAt? loc

section Aftermath

variable {console : Console} {t : Target} {disk last after : Disk} {folder : Path}
  {log : List FileReport} {more : List Path} (wrote : WroteOnly t disk last (wroteIn log))
  (order : (log.map FileReport.file ++ more).Sublist (disk.requestFiles folder))
  (touches : Touches t last after more)
include wrote order touches

theorem others_of_worked {loc : Location}
    (unused : ∀ file ∈ disk.requestFiles folder, ¬t.Uses after file loc) :
    after.fileAt? loc = disk.fileAt? loc := by
  have among := ((wroteIn_sublist log).append_right more).trans order
  exact (wrote.touches.trans touches).fileAt?_eq fun file touched =>
    unused file (among.subset touched)

variable (tidy : Tidy t disk folder) (accounted : ∀ r ∈ log, r.Accounted console t disk)
include tidy accounted

theorem written_of_worked {r : FileReport} {s : Scene} (member : r ∈ log)
    (scene : sceneOf disk r.file = .ok s) : t.Holds after r.file s := by
  have result := (accounted r member).result_of_scene scene
  have apart := (List.pairwise_append.mp (tidy.distinct.sublist order)).2.2
  exact touches.holds
    (fun other later => (apart r.file (List.mem_map_of_mem member) other later).symm)
    (wrote.wrote r.file (mem_wroteIn.mpr ⟨r, member, result, rfl⟩) s scene)

theorem unchanged_of_worked {r : FileReport} (member : r ∈ log) (result : r.result = .failed)
    {loc : Location} (leads : after.locate (t.pathFor r.file) = .ok loc) :
    after.fileAt? loc = disk.fileAt? loc := by
  obtain ⟨_, _, apart⟩ := List.pairwise_append.mp (tidy.distinct.sublist order)
  have listed {r : FileReport} (member : r ∈ log) : r.file ∈ disk.requestFiles folder :=
    order.subset (List.mem_append_left _ (List.mem_map_of_mem member))
  have symmetric : Std.Symm fun file other => t.pathFor file ≠ t.pathFor other :=
    ⟨fun _ _ => Ne.symm⟩
  refine (wrote.touches.trans touches).fileAt?_eq fun other touched uses => ?_
  have same := t.eq_of_uses uses (.inl leads)
  -- neither a written file nor the one where the run ended has the target of a failed one
  rcases List.mem_append.mp touched with before | last
  · obtain ⟨r', member', result', rfl⟩ := mem_wroteIn.mp before
    obtain ⟨s, scene, _⟩ := (accounted r' member').saved result'
    have different : r'.file ≠ r.file := by
      intro equal
      rw [equal] at scene
      cases result.symm.trans ((accounted r member).result_of_scene scene)
    exact tidy.distinct.forall (listed member') (listed member) different same
  · exact apart r.file (List.mem_map_of_mem member) other last same.symm

end Aftermath

/-- Behind its last report a run touches nothing, or one target that was not reported. -/
theorem Ends.touches {console : Console} {t : Target} {failed : Bool} {files : List Path}
    {log : List FileReport} {last : Disk} {outcome : Outcome}
    (ends : Ends console t failed files log last outcome) :
    ∃ more, (log.map FileReport.file ++ more).Sublist files ∧
      Touches t last outcome.disk more := by
  cases ends with
  | exited all still _ =>
    refine ⟨[], ?_, ?_⟩
    · rw [List.append_nil, all]
    · rw [still]
      exact .refl last _
  | @escaped file rest failure reaches work _ =>
    refine ⟨[file], ?_, ?_⟩
    · rw [reaches]
      exact (List.sublist_append_left [file] rest).append_left _
    · exact (fileWork_of_renderFile work).touches

/-- The exit code is zero if every file has a scene which could be saved before the run. -/
theorem Ends.exit_zero_iff {console : Console} {t : Target} {disk last : Disk} {folder : Path}
    {log : List FileReport} {outcome : Outcome} (tidy : Tidy t disk folder)
    (wrote : WroteOnly t disk last (wroteIn log))
    (accounted : ∀ r ∈ log, r.Accounted console t disk)
    (ends : Ends console t false (disk.requestFiles folder) log last outcome) :
    outcome.ending = .exit 0 ↔ ∀ file ∈ disk.requestFiles folder, ∃ s,
      sceneOf disk file = .ok s ∧ ∃ after, t.save disk file s = (after, .ok ()) := by
  cases ends with
  | exited all _ ending =>
    rw [ending, all, ← any_failed_eq_false_iff accounted, Bool.false_or]
    cases log.any fun r => r.result = .failed <;> simp
  | @escaped file rest failure reaches work ending =>
    rw [ending]
    refine ⟨nofun, fun all => ?_⟩
    -- with a scene that can be saved the file would have been reported, and the run gone on
    have distinct := tidy.distinct
    rw [reaches] at distinct
    have apart := (List.pairwise_append.mp distinct).2.2
    have listed : ∀ other ∈ log.map FileReport.file ++ file :: rest,
        other ∈ disk.requestFiles folder := fun other member => reaches ▸ member
    rw [List.forall_mem_append, List.forall_mem_cons] at listed
    have earlier := (wroteIn_sublist log).subset
    obtain ⟨s, scene, saves⟩ := all file listed.2.1
    obtain ⟨_, _, reports⟩ := wrote.reports tidy
      (fun other before => listed.1 other (earlier before)) listed.2.1
      (fun other before => apart other (earlier before) file List.mem_cons_self) scene saves
    rw [reports] at work
    cases (Prod.mk.inj work).2

/-- What the run over the request files does. -/
theorem renderEffect_renderFiles {console : Console} {t : Target} {disk : Disk} {folder : Path}
    (tidy : Tidy t disk folder) (positive : 1 ≤ t.unitSize) :
    ∃ log, RenderEffect console t disk (disk.requestFiles folder)
      (renderFiles console t disk false (disk.requestFiles folder)) log := by
  obtain ⟨log, last, worked, printed, ends⟩ :=
    renderFiles_worked console t (disk.requestFiles folder) disk false
  obtain ⟨more, order, touches⟩ := ends.touches
  have reported : (log.map FileReport.file).Sublist (disk.requestFiles folder) :=
    (List.sublist_append_left _ more).trans order
  obtain ⟨wrote, accounted⟩ := (WroteOnly.nil t disk).run tidy worked reported
  rw [List.nil_append] at wrote
  have succeeds := ends.exit_zero_iff tidy wrote accounted
  refine ⟨log, ⟨last, worked⟩, fun _ => printed, accounted, ?ends, succeeds, ?written, ?failed,
    ?others⟩
  case ends =>
    cases ends with
    | exited all _ ending => exact .inl ⟨⟨_, ending⟩, all⟩
    | escaped reaches work ending =>
      exact .inr ⟨_, _, _, ending, failure_of_renderFile positive work, reaches⟩
  case written =>
    exact fun r member s scene => written_of_worked wrote order touches tidy accounted member scene
  case failed =>
    intro r member result
    refine ⟨fun zero => ?_, fun loc leads =>
      unchanged_of_worked wrote order touches tidy accounted member result leads⟩
    obtain ⟨s, scene, _⟩ := succeeds.mp zero r.file (reported.subset (List.mem_map_of_mem member))
    cases result.symm.trans ((accounted r member).result_of_scene scene)
  case others => exact fun loc unused => others_of_worked wrote order touches unused

theorem RenderEffect.of_same {console : Console} {t : Target} {disk : Disk} {files : List Path}
    {outcome outcome' : Outcome} {log : List FileReport}
    (effect : RenderEffect console t disk files outcome log)
    (sameDisk : outcome'.disk = outcome.disk) (sameEnding : outcome'.ending = outcome.ending)
    (samePrinted : files ≠ [] → outcome'.printed = outcome.printed) :
    RenderEffect console t disk files outcome' log := by
  obtain ⟨d, text, ending⟩ := outcome'
  cases sameDisk
  cases sameEnding
  exact { effect with printed := fun listed => (samePrinted listed).trans (effect.printed listed) }

section Run

variable {console : Console} {seeds : Path → Seeds} {env : Environment} {words : List String}
  {disk : Disk} {o : RenderOptions} (asked : Invocation.ofWords words = some (.render o))
include asked

/-- Without settings or with an unknown format nothing is written. -/
theorem run_of_unknown (unknown : ∀ settings format,
    Settings.resolve env o.config disk = .ok settings →
      Format.ofName? (formatName o.format settings) ≠ some format) :
    (run console seeds env words disk).disk = disk ∧
      (run console seeds env words disk).ending ≠ .exit 0 := by
  simp only [run, asked, render]
  split
  · refine ⟨rfl, fun zero => ?_⟩
    cases zero
  · rename_i settings resolved
    split
    · unfold finish
      split <;>
        · refine ⟨rfl, fun zero => ?_⟩
          cases zero
    · rename_i format known
      exact absurd known (unknown settings format resolved)

variable {settings : Settings} {format : Format}
  (resolved : Settings.resolve env o.config disk = .ok settings)
  (known : Format.ofName? (formatName o.format settings) = some format)
include resolved known

theorem printed_of_run (listed : disk.requestFiles (o.inputDir.getD settings.inputDir) ≠ []) :
    (run console seeds env words disk).printed =
      (renderFiles console (targetOf seeds o settings format) disk false
        (disk.requestFiles (o.inputDir.getD settings.inputDir))).printed := by
  simp only [run, asked, render, resolved, known]
  rfl

theorem renderEffect_run
    (tidy : Tidy (targetOf seeds o settings format) disk (o.inputDir.getD settings.inputDir)) :
    ∃ log, RenderEffect console (targetOf seeds o settings format) disk
      (disk.requestFiles (o.inputDir.getD settings.inputDir)) (run console seeds env words disk)
      log := by
  obtain ⟨log, effect⟩ :=
    renderEffect_renderFiles tidy (one_le_unitSize_targetOf asked resolved)
  obtain ⟨_, whole⟩ : ∃ printed, run console seeds env words disk = _ :=
    run_of_settings asked resolved known tidy.plainFolder
  exact ⟨log, effect.of_same (by rw [whole]) (by rw [whole])
    (printed_of_run asked resolved known)⟩

end Run

/-- What a run of `render` does to the disk, where its paths have no brackets, its targets are
different, and none of them nor a draft lies in the place of a request file. It ends with exit code
zero exactly if its settings load, its format is known, and each request file has a scene that can
be saved. Otherwise than for known settings it leaves the disk alone. With them it reports file
after file, to the last one or to one where a failure ends it. The targets of the reported files
that had a scene before the run hold the document of that scene, the targets of those that failed
are as they were, and so is every other file. This holds on every console and for whatever random
numbers are drawn for each file. -/
theorem render_touches_only_targets (console : Console) {seeds : Path → Seeds} {env : Environment}
    {words : List String} {disk : Disk} {o : RenderOptions}
    (asked : Invocation.ofWords words = some (.render o))
    (tidy : ∀ settings format, Settings.resolve env o.config disk = .ok settings →
      Format.ofName? (formatName o.format settings) = some format →
      Tidy (targetOf seeds o settings format) disk (o.inputDir.getD settings.inputDir)) :
    let outcome := run console seeds env words disk
    (outcome.ending = .exit 0 ↔ ∃ settings format,
      Settings.resolve env o.config disk = .ok settings ∧
      Format.ofName? (formatName o.format settings) = some format ∧
      ∀ file ∈ disk.requestFiles (o.inputDir.getD settings.inputDir), ∃ s,
        sceneOf disk file = .ok s ∧
        ∃ after, (targetOf seeds o settings format).save disk file s = (after, .ok ())) ∧
    ((∀ settings format, Settings.resolve env o.config disk = .ok settings →
        Format.ofName? (formatName o.format settings) ≠ some format) →
      outcome.disk = disk) ∧
    ∀ settings format, Settings.resolve env o.config disk = .ok settings →
      Format.ofName? (formatName o.format settings) = some format →
      let t := targetOf seeds o settings format
      let files := disk.requestFiles (o.inputDir.getD settings.inputDir)
      (outcome.ending = .exit 0 →
        ∀ file ∈ files, ∃ s, sceneOf disk file = .ok s ∧ t.Holds outcome.disk file s) ∧
      ∃ log, RenderEffect console t disk files outcome log := by
  intro outcome
  refine ⟨⟨?zero, ?saved⟩, fun unknown => (run_of_unknown asked unknown).1, ?known⟩
  case zero =>
    intro zero
    by_cases unknown : ∀ settings format, Settings.resolve env o.config disk = .ok settings →
        Format.ofName? (formatName o.format settings) ≠ some format
    · exact absurd zero (run_of_unknown asked unknown).2
    · simp only [not_forall, ne_eq, Classical.not_not] at unknown
      obtain ⟨settings, format, resolved, known⟩ := unknown
      obtain ⟨_, effect⟩ := renderEffect_run asked resolved known (tidy _ _ resolved known)
      exact ⟨settings, format, resolved, known, effect.succeeds.mp zero⟩
  case saved =>
    rintro ⟨settings, format, resolved, known, saves⟩
    obtain ⟨_, effect⟩ := renderEffect_run asked resolved known (tidy _ _ resolved known)
    exact effect.succeeds.mpr saves
  case known =>
    intro settings format resolved known
    obtain ⟨log, effect⟩ := renderEffect_run asked resolved known (tidy _ _ resolved known)
    refine ⟨fun zero file member => ?_, log, effect⟩
    obtain ⟨s, scene, _⟩ := effect.succeeds.mp zero file member
    rcases effect.ends with ⟨_, files⟩ | ⟨_, _, _, ending, _⟩
    · rw [files] at member
      obtain ⟨r, reported, rfl⟩ := List.mem_map.mp member
      exact ⟨s, scene, effect.written r reported s scene⟩
    · exact absurd (zero.symm.trans ending) nofun

/-- The paths of a run from `ir` to `out` are as they should be, whatever its settings might be. -/
theorem tidy_of_resolve_besideNumber (seeds : Path → Seeds) (first : Json.Value)
    (settings : Settings) (format : Format)
    (resolved : Settings.resolve [] none (besideNumber first) = .ok settings)
    (known : Format.ofName? (formatName none settings) = some format) :
    Tidy (targetOf seeds irToOutOptions settings format) (besideNumber first)
      ⟨.relative, ["ir"]⟩ := by
  have default : Settings.resolve [] none (besideNumber first) = .ok .default := rfl
  cases default.symm.trans resolved
  have scene : Format.ofName? (formatName none .default) = some .scene := rfl
  cases scene.symm.trans known
  exact tidy_besideNumber seeds first

theorem sceneOf_numberBesideNumber :
    sceneOf (besideNumber (.obj [("type", .obj [("kind", .str "float")])]))
      ⟨.relative, ["ir", "a.json"]⟩ = .ok ⟨"a", [.unit], 1, 1⟩ := by
  have content : (besideNumber (.obj [("type", .obj [("kind", .str "float")])])).read
      ⟨.relative, ["ir", "a.json"]⟩ = .ok _ := rfl
  simp only [sceneOf, Disk.loadRequest, Disk.loadObject, content,
    Json.readBytes_layout (storable_kind "float")]
  rfl

theorem sceneOf_besideArray :
    sceneOf (besideNumber (.arr [])) ⟨.relative, ["ir", "a.json"]⟩ =
      .error (.notObject ⟨.relative, ["ir", "a.json"]⟩) := by
  have empty : Json.Storable (.arr []) := .arr nofun
  have content : (besideNumber (.arr [])).read ⟨.relative, ["ir", "a.json"]⟩ = .ok _ := rfl
  simp only [sceneOf, Disk.loadRequest, Disk.loadObject, content, Json.readBytes_layout empty]
  rfl

/-- An array in place of a request is noted and does not end the run. -/
theorem ending_besideArray (seeds : Path → Seeds) :
    (run .plain seeds [] irToOut (besideNumber (.arr []))).ending = .exit 1 := by
  have failed : fails (besideNumber (.arr [])) ⟨.relative, ["ir", "a.json"]⟩ = true := by
    rw [fails, sceneOf_besideArray]
  have asked : Invocation.ofWords irToOut = some (.render irToOutOptions) := rfl
  have resolved : Settings.resolve [] none (besideNumber (.arr [])) = .ok .default := rfl
  have known : Format.ofName? (formatName none .default) = some .scene := rfl
  have prepared := prepared_besideNumber seeds failed
  obtain ⟨_, whole⟩ : ∃ printed, run .plain seeds [] irToOut _ = _ :=
    run_of_settings asked resolved known prepared.plainFolder
  obtain ⟨ending, _⟩ := renderFiles_of_speaks prepared (one_le_unitSize_targetOf asked resolved) (by
    rw [requestFiles_besideNumber, List.forall_mem_cons, List.forall_mem_singleton]
    constructor
    · intro failure found
      cases sceneOf_besideArray.symm.trans found
      exact Markup.print_ok_iff.mpr (Markup.check_of_no_bracket .plain (by decide))
    · intro failure found
      cases (sceneOf_besideNumber _).symm.trans found)
  rw [whole]
  refine ending.trans ?_
  rw [requestFiles_besideNumber, List.any_cons, failed]
  rfl

/-- Two numbers are written, and the run ends with exit code zero. With an array in place of the
first request only the second scene is written: the target of the first is not made, and the file
with the array is as it was. -/
theorem render_touches_only_targets_two_files :
    let t := targetOf (fun _ _ => (5, 7)) irToOutOptions .default .scene
    let number : Json.Value := .obj [("type", .obj [("kind", .str "float")])]
    let outcome := run .plain (fun _ _ => (5, 7)) [] irToOut (besideNumber number)
    let outcome' := run .plain (fun _ _ => (5, 7)) [] irToOut (besideNumber (.arr []))
    Invocation.ofWords irToOut = some (.render irToOutOptions) ∧
      (∀ first, Tidy t (besideNumber first) ⟨.relative, ["ir"]⟩) ∧
      (outcome.ending = .exit 0 ∧
        t.Holds outcome.disk ⟨.relative, ["ir", "a.json"]⟩ ⟨"a", [.unit], 1, 1⟩ ∧
        t.Holds outcome.disk ⟨.relative, ["ir", "b.json"]⟩ ⟨"b", [.unit], 1, 1⟩) ∧
      outcome'.ending = .exit 1 ∧
      t.Holds outcome'.disk ⟨.relative, ["ir", "b.json"]⟩ ⟨"b", [.unit], 1, 1⟩ ∧
      outcome'.disk.fileAt? ["w", "out", "a.scene.json"] = none ∧
      outcome'.disk.fileAt? ["w", "ir", "a.json"] =
        (besideNumber (.arr [])).fileAt? ["w", "ir", "a.json"] := by
  intro t number outcome outcome'
  have asked : Invocation.ofWords irToOut = some (.render irToOutOptions) := rfl
  have resolved (first : Json.Value) :
      Settings.resolve [] none (besideNumber first) = .ok .default := rfl
  have known : Format.ofName? (formatName none .default) = some .scene := rfl
  have listed (first : Json.Value) : (besideNumber first).requestFiles
      (irToOutOptions.inputDir.getD Settings.default.inputDir) = _ :=
    requestFiles_besideNumber first
  refine ⟨asked, tidy_besideNumber _, ?numbers, ending_besideArray _, ?array⟩
  case numbers =>
    have sceneA := sceneOf_numberBesideNumber
    have sceneB := sceneOf_besideNumber number
    obtain ⟨succeeds, _, effect⟩ := render_touches_only_targets .plain asked
      (tidy_of_resolve_besideNumber (fun _ _ => (5, 7)) number)
    have zero : outcome.ending = .exit 0 := by
      refine succeeds.mpr ⟨_, _, resolved _, known, ?_⟩
      rw [listed]
      simp only [List.forall_mem_cons]
      exact ⟨⟨_, sceneA, _, rfl⟩, ⟨_, sceneB, _, rfl⟩, List.forall_mem_nil _⟩
    obtain ⟨holds, _⟩ := effect _ _ (resolved _) known
    rw [listed] at holds
    obtain ⟨_, foundA, holdsA⟩ := holds zero ⟨.relative, ["ir", "a.json"]⟩ (by simp)
    obtain ⟨_, foundB, holdsB⟩ := holds zero ⟨.relative, ["ir", "b.json"]⟩ (by simp)
    cases sceneA.symm.trans foundA
    cases sceneB.symm.trans foundB
    exact ⟨zero, holdsA, holdsB⟩
  case array =>
    obtain ⟨_, _, effect⟩ := render_touches_only_targets .plain asked
      (tidy_of_resolve_besideNumber (fun _ _ => (5, 7)) (.arr []))
    obtain ⟨_, log, effect⟩ := effect _ _ (resolved _) known
    rw [listed] at effect
    have reported : log.map FileReport.file =
        [⟨.relative, ["ir", "a.json"]⟩, ⟨.relative, ["ir", "b.json"]⟩] := by
      rcases effect.ends with ⟨_, all⟩ | ⟨_, _, _, ending, _⟩
      · exact all.symm
      · cases (ending_besideArray _).symm.trans ending
    have logged {file : Path} (member : file ∈ log.map FileReport.file) :
        ∃ r ∈ log, r.file = file := List.mem_map.mp member
    rw [reported] at logged
    obtain ⟨r, member, own⟩ := logged List.mem_cons_self
    obtain ⟨r', member', own'⟩ := logged (List.mem_cons_of_mem _ List.mem_cons_self)
    have failed : r.result = .failed := by
      cases result : r.result with
      | failed => rfl
      | wrote =>
        obtain ⟨_, found, _⟩ := (effect.accounted r member).saved result
        rw [own] at found
        cases sceneOf_besideArray.symm.trans found
    refine ⟨?written, ?target, ?request⟩
    case written =>
      have holds := effect.written r' member' ⟨"b", [.unit], 1, 1⟩
      rw [own'] at holds
      exact holds (sceneOf_besideNumber _)
    case request =>
      refine effect.others _ ?_
      simp only [List.forall_mem_cons]
      exact ⟨Target.not_uses_of_name ["w", "ir"] (by decide) (by decide),
        Target.not_uses_of_name ["w", "ir"] (by decide) (by decide), List.forall_mem_nil _⟩
    case target =>
      by_cases leads : outcome'.disk.locate ⟨.relative, ["out", "a.scene.json"]⟩ =
          .ok ["w", "out", "a.scene.json"]
      · have same := (effect.failed r member failed).2
        rw [own] at same
        exact (same _ leads).trans rfl
      · refine (effect.others _ ?_).trans rfl
        simp only [List.forall_mem_cons]
        refine ⟨fun uses => ?_, Target.not_uses_of_name ["w", "out"] (by decide) (by decide),
          List.forall_mem_nil _⟩
        rcases uses with target | draft
        · exact leads target
        · obtain ⟨folder, _, _, place⟩ := Disk.locate_child_ok.mp draft
          rw [Disk.step_draftName] at place
          have split : folder ++ [_] = ["w", "out"] ++ ["a.scene.json"] := place
          exact absurd (List.append_inj' split rfl).2 (by decide)

end ArrayScene.Command

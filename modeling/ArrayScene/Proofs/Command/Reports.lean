import ArrayScene.Proofs.Command.DiskEffect

/-!
# Reports of a run

A run of `render` works on the request files in turn and reports each, up to the last one or to one
that lets a failure escape. A report says of its file what was so before the run: that there was no
scene in it, or that there was one which could be saved. Then it has been written, so after some
reports exactly the scenes of the files that are said to be written are on the disk.
-/
namespace ArrayScene.Command

/-- The line about a request file that failed. -/
def failedLine (console : Console) (file : Path) (failure : Failure) : Except Failure String :=
  console.line ("[red]Failed[/] " ++ file.toString ++ ": " ++ failure.message)

/-- The line about a request file whose scene was written. -/
def Target.wroteLine (t : Target) (console : Console) (file : Path) : Except Failure String :=
  console.line ("[green]Wrote[/] " ++ (t.pathFor file).toString)

/-- All that the work on one request file can come to: a disk, and a line with a result or the
failure that ends the run. -/
inductive FileWork (console : Console) (t : Target) (d : Disk) (file : Path) :
    Disk → Except Failure (String × Result) → Prop
  | noted {failure : Failure} {line : String} (refused : sceneOf d file = .error failure)
      (printed : failedLine console file failure = .ok line) :
      FileWork console t d file d (.ok (line, .failed))
  | notedInVain {failure stuck : Failure} (refused : sceneOf d file = .error failure)
      (unprinted : failedLine console file failure = .error stuck) :
      FileWork console t d file d (.error stuck)
  | unreported {failure : Failure} (refused : sceneOf d file = .error failure)
      (unexpected : failure.reported = false) : FileWork console t d file d (.error failure)
  | unsaved {s : Scene} {after : Disk} {failure : Failure} (scene : sceneOf d file = .ok s)
      (saved : t.save d file s = (after, .error failure)) :
      FileWork console t d file after (.error failure)
  | wrote {s : Scene} {after : Disk} {line : String} (scene : sceneOf d file = .ok s)
      (saved : t.save d file s = (after, .ok ())) (printed : t.wroteLine console file = .ok line) :
      FileWork console t d file after (.ok (line, .wrote))
  | wroteInVain {s : Scene} {after : Disk} {stuck : Failure} (scene : sceneOf d file = .ok s)
      (saved : t.save d file s = (after, .ok ()))
      (unprinted : t.wroteLine console file = .error stuck) :
      FileWork console t d file after (.error stuck)

theorem fileWork_renderFile (console : Console) (t : Target) (d : Disk) (file : Path) :
    FileWork console t d file (renderFile console t d file).1 (renderFile console t d file).2 := by
  cases scene : sceneOf d file with
  | error failure =>
    cases reported : failure.reported with
    | false =>
      simp only [renderFile, scene, reported]
      exact .unreported scene reported
    | true =>
      simp only [renderFile, scene, reported, if_true]
      change FileWork console t d file d
        ((failedLine console file failure).map fun line => (line, .failed))
      cases printed : failedLine console file failure with
      | ok line => exact .noted scene printed
      | error stuck => exact .notedInVain scene printed
  | ok s =>
    cases saved : t.save d file s with
    | mk after outcome =>
      cases outcome with
      | error failure =>
        simp only [renderFile, scene, saved]
        exact .unsaved scene saved
      | ok =>
        simp only [renderFile, scene, saved]
        change FileWork console t d file after
          ((t.wroteLine console file).map fun line => (line, .wrote))
        cases printed : t.wroteLine console file with
        | ok line => exact .wrote scene saved printed
        | error stuck => exact .wroteInVain scene saved printed

theorem fileWork_of_renderFile {console : Console} {t : Target} {d after : Disk} {file : Path}
    {outcome : Except Failure (String × Result)}
    (work : renderFile console t d file = (after, outcome)) :
    FileWork console t d file after outcome := by
  have all := fileWork_renderFile console t d file
  rwa [work] at all

/-- Whatever comes of it, the work on a request file touches one target. -/
theorem FileWork.touches {console : Console} {t : Target} {d after : Disk} {file : Path}
    {outcome : Except Failure (String × Result)} (work : FileWork console t d file after outcome) :
    Touches t d after [file] := by
  have saving {s : Scene} {after : Disk} {result : Except Failure Unit}
      (saved : t.save d file s = (after, result)) : Touches t d after [file] := by
    have touched := t.touches_save d file s
    rwa [saved] at touched
  cases work with
  | noted | notedInVain | unreported => exact .refl d _
  | unsaved _ saved | wrote _ saved | wroteInVain _ saved => exact saving saved

/-- What a run reports of a request file. -/
structure FileReport where
  file : Path
  line : String
  result : Result

/-- From one disk to another, request files were worked on in turn and reported. -/
inductive Worked (console : Console) (t : Target) : Disk → List FileReport → Disk → Prop
  | nil {d : Disk} : Worked console t d [] d
  | cons {d mid last : Disk} {r : FileReport} {log : List FileReport}
      (first : renderFile console t d r.file = (mid, .ok (r.line, r.result)))
      (rest : Worked console t mid log last) : Worked console t d (r :: log) last

/-- How a run over files ends after its last report: behind the last file, with an exit code that
tells of failures, or by one at the next file. -/
inductive Ends (console : Console) (t : Target) (failed : Bool) (files : List Path)
    (log : List FileReport) (last : Disk) (outcome : Outcome) : Prop
  | exited (all : files = log.map FileReport.file) (still : outcome.disk = last)
      (ending : outcome.ending =
        .exit (if failed || log.any (·.result = .failed) then 1 else 0)) :
      Ends console t failed files log last outcome
  | escaped {file : Path} {rest : List Path} {failure : Failure}
      (reaches : files = log.map FileReport.file ++ file :: rest)
      (work : renderFile console t last file = (outcome.disk, .error failure))
      (ending : outcome.ending = .escaped failure) : Ends console t failed files log last outcome

/-- A run prints what it reports, to the last file or to one where it ends. -/
theorem renderFiles_worked (console : Console) (t : Target) (files : List Path) (d : Disk)
    (failed : Bool) :
    let outcome := renderFiles console t d failed files
    ∃ log last, Worked console t d log last ∧
      outcome.printed = String.join (log.map FileReport.line) ∧
      Ends console t failed files log last outcome := by
  induction files generalizing d failed with
  | nil => exact ⟨[], d, .nil, rfl, .exited rfl rfl (by simp [renderFiles])⟩
  | cons file files ih =>
    cases work : renderFile console t d file with
    | mk mid result =>
      cases result with
      | error failure =>
        have stops : renderFiles console t d failed (file :: files) =
            ⟨mid, "", .escaped failure⟩ := by
          simp only [renderFiles, work]
        rw [stops]
        exact ⟨[], d, .nil, rfl, .escaped rfl work rfl⟩
      | ok reported =>
        obtain ⟨line, result⟩ := reported
        obtain ⟨log, last, worked, printed, ends⟩ := ih mid (failed || result = .failed)
        have first : renderFile console t d (⟨file, line, result⟩ : FileReport).file = _ := work
        refine ⟨⟨file, line, result⟩ :: log, last, .cons first worked, ?_, ?_⟩
        · simp only [renderFiles, work, printed, List.map_cons, String.join_cons]
        · simp only [renderFiles, work]
          cases ends with
          | exited all still ending =>
            exact .exited (congrArg _ all) still (by rw [ending, List.any_cons, Bool.or_assoc])
          | escaped reaches work ending => exact .escaped (congrArg _ reaches) work ending

/-- What a report says of a file, as it was before the run: that it has no scene and why, or that
its scene was written where it could be. -/
def FileReport.Accounted (console : Console) (t : Target) (disk : Disk) (r : FileReport) : Prop :=
  match r.result with
  | .failed => ∃ failure, sceneOf disk r.file = .error failure ∧
      failedLine console r.file failure = .ok r.line
  | .wrote => ∃ s, sceneOf disk r.file = .ok s ∧
      (∃ after, t.save disk r.file s = (after, .ok ())) ∧ t.wroteLine console r.file = .ok r.line

namespace FileReport.Accounted

variable {console : Console} {t : Target} {disk : Disk} {r : FileReport}
  (account : r.Accounted console t disk)
include account

theorem refused (result : r.result = .failed) :
    ∃ failure, sceneOf disk r.file = .error failure := by
  rw [FileReport.Accounted, result] at account
  obtain ⟨failure, found, _⟩ := account
  exact ⟨failure, found⟩

theorem saved (result : r.result = .wrote) : ∃ s, sceneOf disk r.file = .ok s ∧
    ∃ after, t.save disk r.file s = (after, .ok ()) := by
  rw [FileReport.Accounted, result] at account
  obtain ⟨s, scene, saves, _⟩ := account
  exact ⟨s, scene, saves⟩

theorem result_of_scene {s : Scene} (scene : sceneOf disk r.file = .ok s) : r.result = .wrote := by
  cases result : r.result with
  | wrote => rfl
  | failed =>
    obtain ⟨failure, refused⟩ := account.refused result
    cases scene.symm.trans refused

end FileReport.Accounted

/-- The files that were reported as written. -/
def wroteIn (log : List FileReport) : List Path :=
  (log.filter fun r => r.result = .wrote).map FileReport.file

theorem wroteIn_sublist (log : List FileReport) :
    (wroteIn log).Sublist (log.map FileReport.file) :=
  List.filter_sublist.map FileReport.file

theorem mem_wroteIn {log : List FileReport} {file : Path} :
    file ∈ wroteIn log ↔ ∃ r ∈ log, r.result = .wrote ∧ r.file = file := by
  simp only [wroteIn, List.mem_map, List.mem_filter, decide_eq_true_eq, and_assoc]

/-- No failure was reported if every file that was has a scene which could be saved. -/
theorem any_failed_eq_false_iff {console : Console} {t : Target} {disk : Disk}
    {log : List FileReport} (accounted : ∀ r ∈ log, r.Accounted console t disk) :
    (log.any fun r => r.result = .failed) = false ↔
      ∀ file ∈ log.map FileReport.file, ∃ s, sceneOf disk file = .ok s ∧
        ∃ after, t.save disk file s = (after, .ok ()) := by
  simp only [List.any_eq_false, decide_eq_true_eq, List.forall_mem_map]
  refine forall₂_congr fun r member => ⟨fun kept => ?_, ?_⟩
  · cases result : r.result with
    | wrote => exact (accounted r member).saved result
    | failed => exact absurd result kept
  · rintro ⟨s, scene, _⟩ result
    cases result.symm.trans ((accounted r member).result_of_scene scene)

section Work

variable {console : Console} {t : Target} {disk d last : Disk} {folder : Path} {written : List Path}
  (tidy : Tidy t disk folder)
include tidy

/-- The work on one more file that is reported. -/
theorem WroteOnly.step {after : Disk} {r : FileReport} (wrote : WroteOnly t disk d written)
    (listed : ∀ file ∈ written, file ∈ disk.requestFiles folder)
    (member : r.file ∈ disk.requestFiles folder)
    (new : ∀ other ∈ written, t.pathFor other ≠ t.pathFor r.file)
    (work : renderFile console t d r.file = (after, .ok (r.line, r.result))) :
    WroteOnly t disk after (written ++ wroteIn [r]) ∧ r.Accounted console t disk := by
  obtain ⟨file, line, result⟩ := r
  have same := wrote.sceneOf_eq tidy listed member
  cases fileWork_of_renderFile work with
  | noted refused printed =>
    refine ⟨?_, _, same.symm.trans refused, printed⟩
    change WroteOnly t disk d (written ++ [])
    rwa [List.append_nil]
  | wrote scene saved printed =>
    have found := same.symm.trans scene
    exact ⟨wrote.saved new found saved, _, found, (wrote.saves_iff new).mp ⟨_, saved⟩, printed⟩

/-- The work on more files that are reported. -/
theorem WroteOnly.run {log : List FileReport} (worked : Worked console t d log last)
    (wrote : WroteOnly t disk d written)
    (order : (written ++ log.map FileReport.file).Sublist (disk.requestFiles folder)) :
    WroteOnly t disk last (written ++ wroteIn log) ∧ ∀ r ∈ log, r.Accounted console t disk := by
  induction worked generalizing written with
  | nil => exact ⟨by rwa [wroteIn, List.filter_nil, List.map_nil, List.append_nil], nofun⟩
  | @cons d mid last r log first rest ih =>
    have listed : ∀ file ∈ written ++ r.file :: log.map FileReport.file,
        file ∈ disk.requestFiles folder := fun file member => order.subset member
    have apart := (List.pairwise_append.mp (tidy.distinct.sublist order)).2.2
    obtain ⟨next, accounted⟩ := wrote.step tidy
      (fun file member => listed file (List.mem_append_left _ member))
      (listed _ (List.mem_append_right _ List.mem_cons_self))
      (fun other member => apart other member _ List.mem_cons_self) first
    -- a file that failed is not among the written ones, so the order loses it
    have order' : (written ++ wroteIn [r] ++ log.map FileReport.file).Sublist
        (disk.requestFiles folder) := by
      refine List.Sublist.trans ?_ order
      rw [List.append_assoc]
      exact ((wroteIn_sublist [r]).append_right _).append_left written
    obtain ⟨wroteAll, accountedAll⟩ := ih next order'
    refine ⟨?_, List.forall_mem_cons.mpr ⟨accounted, accountedAll⟩⟩
    rwa [List.append_assoc, wroteIn, wroteIn, ← List.map_append, ← List.filter_append] at wroteAll

/-- A file that has a scene which could be saved before the run is reported. -/
theorem WroteOnly.reports {file : Path} {scene : Scene} (wrote : WroteOnly t disk d written)
    (listed : ∀ file ∈ written, file ∈ disk.requestFiles folder)
    (member : file ∈ disk.requestFiles folder)
    (new : ∀ other ∈ written, t.pathFor other ≠ t.pathFor file)
    (found : sceneOf disk file = .ok scene)
    (saves : ∃ after, t.save disk file scene = (after, .ok ())) :
    ∃ after line, renderFile console t d file = (after, .ok (line, .wrote)) := by
  obtain ⟨after, saved⟩ := (wrote.saves_iff new).mpr saves
  obtain ⟨line, work⟩ := renderFile_of_scene console (tidy.plainTargets file member)
    ((wrote.sceneOf_eq tidy listed member).trans found) saved
  exact ⟨after, line, work⟩

end Work

/-- A failure that ends a run is one of the disk, an integer that cannot be written, or a fault in
what was to be printed. -/
theorem failure_of_renderFile {console : Console} {t : Target} (positive : 1 ≤ t.unitSize)
    {d after : Disk} {file : Path} {failure : Failure}
    (work : renderFile console t d file = (after, .error failure)) :
    (∃ fault, failure = .disk fault) ∨ failure = .integerRange ∨
      ∃ fault, failure = .markup fault := by
  cases fileWork_of_renderFile work with
  | notedInVain _ unprinted | wroteInVain _ _ unprinted =>
    exact .inr (.inr (Console.exists_of_line_eq_error unprinted))
  | unreported refused unexpected =>
    cases reading : d.read file with
    | error fault =>
      simp only [sceneOf, Disk.loadRequest, Disk.loadObject, reading, bind, Except.bind] at refused
      cases refused
      exact .inl ⟨fault, rfl⟩
    | ok content => cases unexpected.symm.trans (reported_of_sceneOf reading refused)
  | unsaved scene saved =>
    obtain ⟨v, document⟩ := t.exists_document positive scene
    rw [t.save_of_document document] at saved
    exact (Disk.failure_of_save (t.name_pathFor_ne file) saved).imp_right .inl

end ArrayScene.Command

import ArrayScene.Proofs.Command.Progress
import Mathlib.Data.List.Pairwise

/-!
# The disk after each request file

What the work on request files does to the disk, whichever way it goes. Only the places of the
targets that were written are touched, apart from the folders that were made for them, and so a
request file is found as it was before the run as long as no target lies in its place. Whether the
document for a request file can be saved does not depend on those that were saved before.
-/
namespace ArrayScene

/-- The content of the file at a location. -/
def Disk.fileAt? (d : Disk) (loc : Location) : Option ByteArray :=
  match d.at? loc with
  | some (.file content) => some content
  | _ => none

theorem Disk.read_of_folder {d : Disk} {p : Path} (folder : d.look p = .ok .folder) :
    d.read p = .error .isFolder := by
  simp only [read, folder, bind, Except.bind]

namespace Command

theorem Target.uses_of_keepsFolders {t : Target} {d after : Disk} (keeps : d.KeepsFolders after)
    {file : Path} {loc : Location} (uses : t.Uses d file loc) : t.Uses after file loc :=
  uses.imp (Disk.locate_of_keepsFolders keeps) (Disk.locate_of_keepsFolders keeps)

theorem Target.save_of_no_document {t : Target} {file : Path} {s : Scene} {fault : SketchFault}
    (none : t.documentOf file s = .error fault) (d : Disk) :
    t.save d file s = (d, .error (.sketch fault)) := by
  rw [Target.save]
  unfold documentOf at none
  cases format : t.format with
  | scene =>
    rw [format] at none
    cases none
  | sketch =>
    rw [format] at none
    cases converted : Sketch.ofScene t.unitSize (t.seeds file) s with
    | error fault =>
      simp only [converted] at none
      cases none
      simp only [Disk.saveSketch, converted]
    | ok sketch =>
      simp only [converted] at none
      cases none

/-- The scene of a request file is saved if there is a document of it, its integers can be written,
and so can its target. -/
theorem Target.save_ok_iff {t : Target} {d : Disk} {file : Path} {s : Scene} :
    (∃ after, t.save d file s = (after, .ok ())) ↔
      d.Writable (t.pathFor file) ∧ ∃ v, t.documentOf file s = .ok v ∧ Json.writable v = true := by
  cases document : t.documentOf file s with
  | error fault => simp [t.save_of_no_document document]
  | ok v => simp [t.save_of_document document, Disk.save_ok_iff]

/-- Between two disks nothing has changed but in the places for some request files, and folders were
made. -/
structure Touches (t : Target) (d after : Disk) (files : List Path) : Prop where
  keeps : d.KeepsFolders after
  others : ∀ loc, (∀ file ∈ files, ¬t.Uses after file loc) →
    after.at? loc = d.at? loc ∨ d.at? loc = none ∧ after.at? loc = some .folder

namespace Touches

variable {t : Target}

theorem refl (d : Disk) (files : List Path) : Touches t d d files :=
  ⟨⟨rfl, fun _ => id⟩, fun _ _ => .inl rfl⟩

theorem trans {d mid after : Disk} {files files' : List Path} (first : Touches t d mid files)
    (second : Touches t mid after files') : Touches t d after (files ++ files') where
  keeps := first.keeps.trans second.keeps
  others loc unused := by
    rw [List.forall_mem_append] at unused
    have before := first.others loc fun file member uses =>
      unused.1 file member (t.uses_of_keepsFolders second.keeps uses)
    rcases second.others loc unused.2 with same | ⟨free, made⟩
    · rw [same]
      exact before
    · rcases before with same | ⟨_, folder⟩
      · exact .inr ⟨same ▸ free, made⟩
      · rw [folder] at free
        cases free

/-- No file has appeared, changed or gone anywhere else. -/
theorem fileAt?_eq {d after : Disk} {files : List Path} (touches : Touches t d after files)
    {loc : Location} (unused : ∀ file ∈ files, ¬t.Uses after file loc) :
    after.fileAt? loc = d.fileAt? loc := by
  rcases touches.others loc unused with same | ⟨free, made⟩
  · rw [Disk.fileAt?, Disk.fileAt?, same]
  · rw [Disk.fileAt?, Disk.fileAt?, free, made]

/-- What another target holds it goes on to hold. -/
theorem holds {d after : Disk} {files : List Path} (touches : Touches t d after files)
    {file : Path} {s : Scene} (new : ∀ other ∈ files, t.pathFor other ≠ t.pathFor file)
    (held : t.Holds d file s) : t.Holds after file s := by
  obtain ⟨v, text, document, written, read⟩ := held
  obtain ⟨loc, leads, found⟩ := Disk.read_ok.mp read
  have leads' := Disk.locate_of_keepsFolders touches.keeps leads
  refine ⟨v, text, document, written, Disk.read_ok.mpr ⟨loc, leads', ?_⟩⟩
  rcases touches.others loc fun other member uses =>
    new other member (t.eq_of_uses uses (.inl leads')) with same | ⟨free, _⟩
  · rw [same, found]
  · rw [found] at free
    cases free

end Touches

/-- Saving touches one target, whatever comes of it. -/
theorem Target.touches_save (t : Target) (d : Disk) (file : Path) (s : Scene) :
    Touches t d (t.save d file s).1 [file] := by
  cases document : t.documentOf file s with
  | error fault =>
    rw [t.save_of_no_document document]
    exact .refl d _
  | ok v =>
    have gains := d.gainsFolders_ensureFolders t.folder
    have writes := d.writesOnly_save (t.pathFor file) v
    rw [t.parent_pathFor] at writes
    rw [t.save_of_document document]
    refine ⟨gains.keepsFolders.trans writes.keeps, fun loc unused => ?_⟩
    have own := unused file (List.mem_singleton_self file)
    rw [writes.others loc (fun leads => own (.inl leads)) (fun leads => own (.inr leads))]
    exact gains.entries loc

/-- What is asked of the paths of a run: different targets, no request file where one of them or its
draft is written, and no brackets. -/
structure Tidy (t : Target) (disk : Disk) (folder : Path) : Prop where
  distinct : (disk.requestFiles folder).Pairwise fun file other => t.pathFor file ≠ t.pathFor other
  apart : ∀ file ∈ disk.requestFiles folder, ∀ other ∈ disk.requestFiles folder, ∀ loc,
    (disk.ensureFolders t.folder).1.locate file = .ok loc →
      ¬t.Uses (disk.ensureFolders t.folder).1 other loc
  plainFolder : '[' ∉ folder.toString.toList
  plainFiles : ∀ file ∈ disk.requestFiles folder, '[' ∉ file.toString.toList
  plainTargets : ∀ file ∈ disk.requestFiles folder, '[' ∉ (t.pathFor file).toString.toList

/-- The disk after the scenes of some request files were written, and nothing else. -/
structure WroteOnly (t : Target) (disk d : Disk) (files : List Path) : Prop
    extends Reached t disk d files where
  untouched : files = [] → d = disk
  opens : files ≠ [] → (disk.ensureFolders t.folder).2 = .ok () ∧ d.look t.folder = .ok .folder

namespace WroteOnly

theorem nil (t : Target) (disk : Disk) : WroteOnly t disk disk [] where
  toReached := reached_nil t disk
  untouched _ := rfl
  opens := nofun

variable {t : Target} {disk d : Disk} {written : List Path} (wrote : WroteOnly t disk d written)
include wrote

theorem touches : Touches t disk d written := by
  by_cases first : written = []
  · rw [wrote.untouched first]
    exact .refl disk _
  · obtain ⟨made, folder⟩ := wrote.opens first
    have gains := disk.gainsFolders_ensureFolders t.folder
    have opened := wrote.opened
    have others := wrote.others
    rw [Disk.ensureFolders_of_folder folder] at opened others
    refine ⟨wrote.keeps, fun loc unused => ?_⟩
    rw [others loc fun file member uses =>
      unused file member (t.uses_of_keepsFolders opened uses)]
    exact gains.entries loc

/-- A target can be written if it could be before the run. -/
theorem writable_iff {file : Path} (new : ∀ other ∈ written, t.pathFor other ≠ t.pathFor file) :
    d.Writable (t.pathFor file) ↔ disk.Writable (t.pathFor file) := by
  refine ⟨fun writable => ?_, fun writable => wrote.writable writable new⟩
  by_cases first : written = []
  · rwa [wrote.untouched first] at writable
  · obtain ⟨named, _, target, draft⟩ := writable
    have opened := wrote.opened
    rw [t.parent_pathFor] at target draft
    refine ⟨named, ?_, ?_, ?_⟩
    · rw [t.parent_pathFor]
      exact (wrote.opens first).1
    · rw [t.parent_pathFor]
      exact fun folder => target (Disk.look_folder_of_keepsFolders opened folder)
    · rw [t.parent_pathFor]
      exact fun folder => draft (Disk.look_folder_of_keepsFolders opened folder)

theorem saves_iff {file : Path} {s : Scene}
    (new : ∀ other ∈ written, t.pathFor other ≠ t.pathFor file) :
    (∃ after, t.save d file s = (after, .ok ())) ↔
      ∃ after, t.save disk file s = (after, .ok ()) := by
  rw [t.save_ok_iff, t.save_ok_iff, wrote.writable_iff new]

/-- A request file is found as before the run, or the folder in its place is. -/
theorem sceneOf_eq {folder : Path} (tidy : Tidy t disk folder)
    (listed : ∀ file ∈ written, file ∈ disk.requestFiles folder) {file : Path}
    (member : file ∈ disk.requestFiles folder) : sceneOf d file = sceneOf disk file := by
  apply sceneOf_congr
  obtain ⟨e, found⟩ := look_of_mem_requestFiles member
  cases e with
  | folder =>
    rw [Disk.read_of_folder found,
      Disk.read_of_folder (Disk.look_folder_of_keepsFolders wrote.keeps found)]
  | file content =>
    have readable := Disk.read_ok.mpr (Disk.look_ok.mp found)
    rw [readable, wrote.read_eq readable fun loc leads other before =>
      tidy.apart file member other (listed other before) loc leads]

theorem saved {after : Disk} {file : Path} {s : Scene}
    (new : ∀ other ∈ written, t.pathFor other ≠ t.pathFor file) (scene : sceneOf disk file = .ok s)
    (result : t.save d file s = (after, .ok ())) : WroteOnly t disk after (written ++ [file]) := by
  obtain ⟨writable, v, document, _⟩ := t.save_ok_iff.mp ⟨after, result⟩
  have made := ((wrote.writable_iff new).mp writable).folder
  rw [t.parent_pathFor] at made
  rw [t.save_of_document document] at result
  obtain ⟨_, written, effect⟩ := Disk.saved_of_save result
  have reached := wrote.toReached.saved made new scene document written effect
  have keeps := effect.keeps
  rw [t.parent_pathFor] at keeps
  have folder := Disk.look_ensureFolders (wrote.folder made)
  exact ⟨reached, by simp, fun _ => ⟨made, Disk.look_folder_of_keepsFolders keeps folder⟩⟩

end WroteOnly

end Command

end ArrayScene

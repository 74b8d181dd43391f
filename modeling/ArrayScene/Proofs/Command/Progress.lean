import ArrayScene.Proofs.Command.RenderFile

/-!
# The disk during a run

What a run of `render` needs of the disk it begins with, and what it has made of the disk after some
of the request files: their scenes are in their targets, the other targets can still be written, and
every request file is as it was.
-/
namespace ArrayScene.Command

/-- What a run needs of the disk: request files that can be read, an output folder elsewhere in
which the target of each request with a scene can be written, different targets, paths without
brackets, and documents that can be written. -/
structure Prepared (t : Target) (disk : Disk) (folder : Path) : Prop where
  readable : ∀ file ∈ disk.requestFiles folder, ∃ content, disk.read file = .ok content
  writable : ∀ file ∈ disk.requestFiles folder, ∀ s, sceneOf disk file = .ok s →
    disk.Writable (t.pathFor file)
  apart : (disk.ensureFolders t.folder).1.locate folder ≠
    (disk.ensureFolders t.folder).1.locate t.folder
  distinct : (disk.requestFiles folder).Pairwise fun file other => t.pathFor file ≠ t.pathFor other
  plainFolder : '[' ∉ folder.toString.toList
  plainFiles : ∀ file ∈ disk.requestFiles folder, '[' ∉ file.toString.toList
  plainTargets : ∀ file ∈ disk.requestFiles folder, '[' ∉ (t.pathFor file).toString.toList
  fits : ∀ file ∈ disk.requestFiles folder, ∀ s v, sceneOf disk file = .ok s →
    t.documentOf file s = .ok v → Json.writable v = true

/-- The disk after the work on some request files, against the disk before the run. -/
structure Reached (t : Target) (disk d : Disk) (done : List Path) : Prop where
  keeps : disk.KeepsFolders d
  folder : (disk.ensureFolders t.folder).2 = .ok () → (d.ensureFolders t.folder).2 = .ok ()
  opened : (disk.ensureFolders t.folder).1.KeepsFolders (d.ensureFolders t.folder).1
  others : ∀ loc, (∀ file ∈ done, ¬t.Uses (disk.ensureFolders t.folder).1 file loc) →
    (d.ensureFolders t.folder).1.at? loc = (disk.ensureFolders t.folder).1.at? loc
  wrote : ∀ file ∈ done, ∀ s, sceneOf disk file = .ok s → t.Holds d file s

theorem reached_nil (t : Target) (disk : Disk) : Reached t disk disk [] where
  keeps := ⟨rfl, fun _ => id⟩
  folder := id
  opened := ⟨rfl, fun _ => id⟩
  others _ _ := rfl
  wrote := nofun

namespace Reached

variable {t : Target} {disk d : Disk} {done : List Path} (reached : Reached t disk d done)
include reached

/-- A file in none of the places that were used is read as before. -/
theorem read_eq {file : Path} {content : ByteArray} (readable : disk.read file = .ok content)
    (unused : ∀ loc, (disk.ensureFolders t.folder).1.locate file = .ok loc →
      ∀ other ∈ done, ¬t.Uses (disk.ensureFolders t.folder).1 other loc) :
    d.read file = .ok content := by
  obtain ⟨loc, leads, found⟩ := Disk.read_ok.mp readable
  have gains := disk.gainsFolders_ensureFolders t.folder
  have there := Disk.locate_of_keepsFolders gains.keepsFolders leads
  have kept := reached.others loc (unused loc there)
  rw [gains.at?_of_file found] at kept
  exact Disk.read_ok.mpr ⟨loc, Disk.locate_of_keepsFolders reached.keeps leads,
    (d.gainsFolders_ensureFolders t.folder).file_of_at? kept⟩

/-- A target that is not among those of the files that are done can still be written. -/
theorem writable {file : Path} (writable : disk.Writable (t.pathFor file))
    (new : ∀ other ∈ done, t.pathFor other ≠ t.pathFor file) : d.Writable (t.pathFor file) := by
  obtain ⟨named, made, target, draft⟩ := writable
  have parent := t.parent_pathFor file
  rw [parent] at made target draft
  obtain ⟨_, _, leadsTarget, leadsDraft⟩ := t.locate_pathFor (Disk.look_ensureFolders made) file
  have free {p : Path} {loc : Location} (leads : (disk.ensureFolders t.folder).1.locate p = .ok loc)
      (uses : t.Uses (disk.ensureFolders t.folder).1 file loc)
      (before : (disk.ensureFolders t.folder).1.look p ≠ .ok .folder) :
      (d.ensureFolders t.folder).1.look p ≠ .ok .folder := by
    intro folder
    obtain ⟨_, leads', found⟩ := Disk.look_ok.mp folder
    rw [Disk.locate_of_keepsFolders reached.opened leads] at leads'
    cases leads'
    rw [reached.others loc fun other member used => new other member (t.eq_of_uses used uses)]
      at found
    exact before (Disk.look_ok.mpr ⟨loc, leads, found⟩)
  constructor
  case named => exact named
  case folder =>
    rw [parent]
    exact reached.folder made
  case target =>
    rw [parent]
    exact free leadsTarget (.inl leadsTarget) target
  case draft =>
    rw [parent]
    exact free leadsDraft (.inr leadsDraft) draft

/-- Nothing is done for a file that fails. -/
theorem failed {file : Path} (refused : fails disk file = true) :
    Reached t disk d (done ++ [file]) where
  keeps := reached.keeps
  folder := reached.folder
  opened := reached.opened
  others loc unused :=
    reached.others loc fun other member => unused other (List.mem_append_left _ member)
  wrote other member s scene := by
    rcases List.mem_append.mp member with before | last
    · exact reached.wrote other before s scene
    · rw [List.mem_singleton.mp last] at scene
      rw [fails, scene] at refused
      cases refused

/-- The writing of one target leaves those that were written before as they are. -/
theorem saved {after : Disk} {file : Path} {s : Scene} {v : Json.Value} {text : String}
    (made : (disk.ensureFolders t.folder).2 = .ok ())
    (new : ∀ other ∈ done, t.pathFor other ≠ t.pathFor file) (scene : sceneOf disk file = .ok s)
    (document : t.documentOf file s = .ok v) (written : Json.write v = some text)
    (effect : d.Saved after (t.pathFor file) text.toUTF8) :
    Reached t disk after (done ++ [file]) := by
  obtain ⟨keeps, content, _, others⟩ := effect
  rw [t.parent_pathFor] at keeps others
  have opens := (d.gainsFolders_ensureFolders t.folder).keepsFolders
  have folder := Disk.look_ensureFolders made
  have again : after.ensureFolders t.folder = (after, .ok ()) :=
    Disk.ensureFolders_of_folder
      (Disk.look_folder_of_keepsFolders (reached.opened.trans keeps) folder)
  -- a path in the output folder leads to one place from the beginning to the end
  have same {p : Path} {first last : Location}
      (leads : (disk.ensureFolders t.folder).1.locate p = .ok first)
      (leads' : after.locate p = .ok last) :
      (disk.ensureFolders t.folder).1.locate p = .ok last := by
    rw [Disk.locate_of_keepsFolders (reached.opened.trans keeps) leads] at leads'
    rw [leads, leads']
  have kept (loc : Location) (unused : ¬t.Uses (disk.ensureFolders t.folder).1 file loc) :
      after.at? loc = (d.ensureFolders t.folder).1.at? loc := by
    obtain ⟨_, _, target, draft⟩ := t.locate_pathFor folder file
    exact others loc (fun leads => unused (.inl (same target leads)))
      (fun leads => unused (.inr (same draft leads)))
  constructor
  case keeps => exact reached.keeps.trans (opens.trans keeps)
  case folder => exact fun _ => by rw [again]
  case opened =>
    rw [again]
    exact reached.opened.trans keeps
  case others =>
    intro loc unused
    rw [again, kept loc (unused file (by simp)),
      reached.others loc fun other member => unused other (List.mem_append_left _ member)]
  case wrote =>
    intro other member s' scene'
    rcases List.mem_append.mp member with before | last
    · obtain ⟨v', text', document', written', read⟩ := reached.wrote other before s' scene'
      obtain ⟨loc, leads, found⟩ := Disk.read_ok.mp read
      have leads' := Disk.locate_of_keepsFolders (opens.trans keeps) leads
      obtain ⟨_, _, target, _⟩ := t.locate_pathFor folder other
      have apart : ¬t.Uses (disk.ensureFolders t.folder).1 file loc :=
        fun uses => new other before (t.eq_of_uses (.inl (same target leads')) uses)
      refine ⟨v', text', document', written', Disk.read_ok.mpr ⟨loc, leads', ?_⟩⟩
      rw [kept loc apart]
      exact (d.gainsFolders_ensureFolders t.folder).at?_of_file found
    · cases List.mem_singleton.mp last
      rw [scene] at scene'
      cases scene'
      exact ⟨v, text, document, written, content⟩

end Reached

end ArrayScene.Command

import ArrayScene.Command.Run
import ArrayScene.Proofs.RenderFaults
import ArrayScene.Proofs.SavedDocuments

/-!
# Targets of a run

Where a run of `render` writes: for each request file one document in the output folder, and beside
it its draft. Different targets never share a place, and no request file lies in one as long as the
two folders are different.
-/
namespace ArrayScene.Command

/-- The document that is written for the scene of a request file. -/
def Target.documentOf (t : Target) (file : Path) (s : Scene) : Except SketchFault Json.Value :=
  match t.format with
  | .scene => .ok s.toJson
  | .sketch => (Sketch.ofScene t.unitSize (t.seeds file) s).map Sketch.toJson

theorem Target.save_of_document {t : Target} {file : Path} {s : Scene} {v : Json.Value}
    (document : t.documentOf file s = .ok v) (disk : Disk) :
    t.save disk file s = disk.save (t.pathFor file) v := by
  rw [Target.save]
  unfold documentOf at document
  cases format : t.format with
  | scene =>
    rw [format] at document
    cases document
    rfl
  | sketch =>
    rw [format] at document
    cases converted : Sketch.ofScene t.unitSize (t.seeds file) s with
    | error fault =>
      simp only [converted] at document
      cases document
    | ok sketch =>
      simp only [converted] at document
      cases document
      simp only [Disk.saveSketch, converted]

theorem Target.regular_of_document {t : Target} {file : Path} {s : Scene} {v : Json.Value}
    (document : t.documentOf file s = .ok v) : Json.Regular v := by
  unfold documentOf at document
  cases format : t.format with
  | scene =>
    rw [format] at document
    cases document
    exact s.regular_toJson
  | sketch =>
    rw [format] at document
    cases converted : Sketch.ofScene t.unitSize (t.seeds file) s with
    | error fault =>
      simp only [converted] at document
      cases document
    | ok sketch =>
      simp only [converted] at document
      cases document
      exact sketch.regular_toJson

/-- The target of a request file holds the text of a scene. -/
def Target.Holds (t : Target) (d : Disk) (file : Path) (s : Scene) : Prop :=
  ∃ v text, t.documentOf file s = .ok v ∧ Json.write v = some text ∧
    d.read (t.pathFor file) = .ok text.toUTF8

/-- What a target holds is read as the document of the scene. -/
theorem Target.Holds.readBack {t : Target} {d : Disk} {file : Path} {s : Scene}
    (holds : t.Holds d file s) : ∃ v bytes, t.documentOf file s = .ok v ∧
      d.read (t.pathFor file) = .ok bytes ∧ Json.readBytes bytes = some v := by
  obtain ⟨v, text, document, written, content⟩ := holds
  have storable := t.regular_of_document document (Json.writable_of_write written)
  exact ⟨v, text.toUTF8, document, content, Json.readBytes_of_write storable written⟩

/-- The places in which the document for a request file is written: its target and its draft. -/
def Target.Uses (t : Target) (d : Disk) (file : Path) (loc : Location) : Prop :=
  d.locate (t.pathFor file) = .ok loc ∨ d.locate (Disk.draftOf (t.pathFor file)) = .ok loc

theorem Target.parent_pathFor (t : Target) (file : Path) : (t.pathFor file).parent = t.folder :=
  Path.parent_child _ _

/-- The name of the file that is written for a request file. -/
def Target.nameFor (t : Target) (file : Path) : String := file.stem ++ t.format.ending

theorem Target.name_pathFor (t : Target) (file : Path) :
    (t.pathFor file).name = t.nameFor file := Path.name_child _ _

theorem getLast?_toList_append (s : String) {ending : String} {c : Char}
    (last : ending.toList.getLast? = some c) : (s ++ ending).toList.getLast? = some c := by
  rw [String.toList_append, List.getLast?_append, last, Option.some_or]

theorem Target.getLast?_nameFor (t : Target) (file : Path) :
    (t.nameFor file).toList.getLast? = some 'n' ∨ (t.nameFor file).toList.getLast? = some 'w' := by
  unfold nameFor
  cases t.format with
  | scene => exact .inl (getLast?_toList_append _ (by decide))
  | sketch => exact .inr (getLast?_toList_append _ (by decide))

theorem Target.nameFor_ne_draft (t : Target) (file other : Path) :
    t.nameFor file ≠ t.nameFor other ++ ".tmp" := by
  intro same
  have last : (t.nameFor other ++ ".tmp").toList.getLast? = some 'p' :=
    getLast?_toList_append _ (by decide)
  rw [← same] at last
  rcases t.getLast?_nameFor file with other | other <;>
    exact absurd (last.symm.trans other) (by decide)

theorem Target.name_pathFor_ne (t : Target) (file : Path) : (t.pathFor file).name ≠ "" := by
  rw [t.name_pathFor]
  intro none
  rcases t.getLast?_nameFor file with last | last <;>
    · rw [none] at last
      cases last

/-- Where the output folder is, each target leads to a place in it, and so does its draft. -/
theorem Target.locate_pathFor {t : Target} {d : Disk} (folder : d.look t.folder = .ok .folder)
    (file : Path) :
    ∃ target draft, d.locate (t.pathFor file) = .ok target ∧
      d.locate (Disk.draftOf (t.pathFor file)) = .ok draft := by
  obtain ⟨loc, leads, found⟩ := Disk.look_ok.mp folder
  rw [← t.parent_pathFor file] at leads
  exact ⟨_, _, Disk.locate_of_parent (t.name_pathFor_ne file) leads found,
    Disk.locate_draftOf leads found⟩

theorem step_of_getLast? {name : String} {c : Char} (last : name.toList.getLast? = some c)
    (point : c ≠ '.') (loc : Location) : Disk.step loc name = loc ++ [name] := by
  refine if_neg fun back => point ?_
  rw [back] at last
  exact (Option.some.inj last).symm

/-- Both places are in the output folder. -/
theorem Target.exists_of_uses {t : Target} {d : Disk} {file : Path} {loc : Location}
    (uses : t.Uses d file loc) :
    ∃ folder name, d.locate t.folder = .ok folder ∧ loc = folder ++ [name] ∧
      (name = t.nameFor file ∨ name = t.nameFor file ++ ".tmp") := by
  rcases uses with target | draft
  · obtain ⟨folder, leads, _, rfl⟩ := Disk.locate_child_ok.mp target
    refine ⟨folder, t.nameFor file, leads, ?_, .inl rfl⟩
    rcases t.getLast?_nameFor file with last | last
    · exact step_of_getLast? last (by decide) folder
    · exact step_of_getLast? last (by decide) folder
  · obtain ⟨folder, leads, _, rfl⟩ := Disk.locate_child_ok.mp draft
    rw [t.parent_pathFor] at leads
    rw [t.name_pathFor]
    exact ⟨folder, t.nameFor file ++ ".tmp", leads, Disk.step_draftName folder _, .inr rfl⟩

/-- A place with another last name is not used. -/
theorem Target.not_uses_of_name {t : Target} {d : Disk} {file : Path} (place : Location)
    {name : String} (target : t.nameFor file ≠ name) (draft : t.nameFor file ++ ".tmp" ≠ name) :
    ¬t.Uses d file (place ++ [name]) := by
  intro uses
  obtain ⟨_, _, _, same, which⟩ := exists_of_uses uses
  cases (List.append_inj' same rfl).2
  exact which.elim target.symm draft.symm

/-- A place is used for one target only. -/
theorem Target.eq_of_uses {t : Target} {d : Disk} {file other : Path} {loc : Location}
    (uses : t.Uses d file loc) (used : t.Uses d other loc) : t.pathFor file = t.pathFor other := by
  obtain ⟨folder, name, leads, place, which⟩ := exists_of_uses uses
  obtain ⟨_, _, leads', place', which'⟩ := exists_of_uses used
  rw [leads] at leads'
  cases leads'
  rw [place] at place'
  cases List.append_cancel_left place'
  have names : t.nameFor file = t.nameFor other := by
    rcases which with rfl | rfl <;> rcases which' with same | same
    · exact same
    · exact absurd same (t.nameFor_ne_draft file other)
    · exact absurd same.symm (t.nameFor_ne_draft other file)
    · rw [← String.toList_inj, String.toList_append, String.toList_append] at same
      exact String.toList_inj.mp (List.append_cancel_right same)
  exact congrArg t.folder.child names

theorem step_of_isSuffixOf {name : String}
    (suffix : ".json".toList.isSuffixOf name.toList = true) (loc : Location) :
    Disk.step loc name = loc ++ [name] := by
  obtain ⟨front, text⟩ := List.isSuffixOf_iff_suffix.mp suffix
  have last : name.toList.getLast? = some 'n' := by
    rw [← text, List.getLast?_append]
    rfl
  exact step_of_getLast? last (by decide) loc

/-- A request file lies in the input folder. -/
theorem exists_of_mem_requestFiles {d e : Disk} {folder file : Path} {loc : Location}
    (member : file ∈ d.requestFiles folder) (leads : e.locate file = .ok loc) :
    ∃ input name, e.locate folder = .ok input ∧ loc = input ++ [name] := by
  obtain ⟨name, listed, rfl⟩ := List.mem_map.mp member
  obtain ⟨input, within, _, rfl⟩ := Disk.locate_child_ok.mp leads
  exact ⟨input, name, within, step_of_isSuffixOf (List.mem_filter.mp listed).2 input⟩

/-- A request file, or a folder in its place, is there. -/
theorem look_of_mem_requestFiles {d : Disk} {folder file : Path}
    (member : file ∈ d.requestFiles folder) : ∃ e, d.look file = .ok e := by
  obtain ⟨name, listed, rfl⟩ := List.mem_map.mp member
  obtain ⟨listed, suffix⟩ := List.mem_filter.mp listed
  rw [Disk.list] at listed
  split at listed
  · rename_i input leads found
    rw [List.mem_mergeSort, Disk.namesIn, List.mem_filterMap] at listed
    obtain ⟨⟨place, e⟩, entry, named⟩ := listed
    have at_place : place = input ++ [name] := by
      rcases List.eq_nil_or_concat place with rfl | ⟨above, last, rfl⟩
      · simp at named
      · simpa [and_comm] using named
    obtain ⟨there, leads', folder⟩ := Disk.look_ok.mp found
    rw [leads] at leads'
    cases leads'
    have leads'' := Disk.locate_child_ok.mpr
      ⟨input, leads, folder, step_of_isSuffixOf suffix input⟩
    cases held : d.at? (input ++ [name]) with
    | some e => exact ⟨e, Disk.look_ok.mpr ⟨_, leads'', held⟩⟩
    | none =>
      rw [Disk.at?, if_neg (by simp), List.lookup_eq_none_iff] at held
      exact absurd (held _ entry) (by simp [at_place])
  · simp at listed

/-- No request file lies in a place that is written to. -/
theorem not_uses_of_apart {t : Target} {d e : Disk} {folder file other : Path} {loc : Location}
    (apart : e.locate folder ≠ e.locate t.folder) (member : file ∈ d.requestFiles folder)
    (leads : e.locate file = .ok loc) : ¬t.Uses e other loc := by
  intro uses
  obtain ⟨output, name, toOutput, place, _⟩ := Target.exists_of_uses uses
  obtain ⟨input, name', toInput, place'⟩ := exists_of_mem_requestFiles member leads
  rw [place] at place'
  have same := (List.append_inj' place' rfl).1
  exact apart (by rw [toOutput, toInput, same])

end ArrayScene.Command

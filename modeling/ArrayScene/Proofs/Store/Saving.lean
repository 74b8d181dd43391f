import ArrayScene.Proofs.Store.Folders
import ArrayScene.Store.Document

/-!
# Documents saved

When a document can be saved at a path, and what is on the disk then: the path leads to a file with
the text of the document, nothing is left of the draft, and every other place is as it was once the
folder of the path was there.
-/
namespace ArrayScene

theorem Path.parent_child (p : Path) (name : String) : (p.child name).parent = p := by
  simp only [parent, child, List.dropLast_concat]

theorem Path.name_child (p : Path) (name : String) : (p.child name).name = name := by
  simp only [Path.name, child, List.getLast?_concat, Option.getD_some]

/-- In another folder a file keeps its stem. -/
theorem Path.stem_child_name (folder file : Path) :
    (folder.child file.name).stem = file.stem := by
  rw [stem, name_child, stem]

/-- A path with a last part is its parent followed by that part. -/
theorem Path.child_parent_name {p : Path} (named : p.name ≠ "") : p.parent.child p.name = p := by
  obtain ⟨root, parts⟩ := p
  rcases List.eq_nil_or_concat parts with rfl | ⟨above, last, rfl⟩
  · exact absurd rfl named
  · simp only [Path.name, parent, child, List.concat_eq_append, List.dropLast_concat,
      List.getLast?_concat, Option.getD_some]

namespace Disk

theorem write_ok {d after : Disk} {p : Path} {content : ByteArray} :
    d.write p content = .ok after ↔
      ∃ loc, d.locate p = .ok loc ∧ d.at? loc ≠ some .folder ∧
        after = d.put loc (.file content) := by
  rw [write]
  rcases d.locate p with _ | loc
  · simp [bind, Except.bind]
  · rcases found : d.at? loc with _ | _ | _ <;>
      simp [bind, Except.bind, found, eq_comm]

theorem move_ok {d after : Disk} {source target : Path} :
    d.move source target = .ok after ↔
      ∃ src dst content, d.locate source = .ok src ∧ d.locate target = .ok dst ∧
        d.at? src = some (.file content) ∧ d.at? dst ≠ some .folder ∧
        after = (d.remove src).put dst (.file content) := by
  rw [move]
  rcases d.locate source with _ | src
  · simp [bind, Except.bind]
  · rcases d.locate target with _ | dst
    · simp [bind, Except.bind]
    · rcases found : d.at? src with _ | _ | _ <;> rcases there : d.at? dst with _ | _ | _ <;>
        simp [bind, Except.bind, found, there, eq_comm]

/-- A document can be saved at the path: it has a last part, the folder it lies in is there or can
be made, and neither the path nor its draft leads to a folder then. -/
structure Writable (d : Disk) (p : Path) : Prop where
  named : p.name ≠ ""
  folder : (d.ensureFolders p.parent).2 = .ok ()
  target : (d.ensureFolders p.parent).1.look p ≠ .ok .folder
  draft : (d.ensureFolders p.parent).1.look (draftOf p) ≠ .ok .folder

/-- What saving a document with the given text has done, once the folder of the path was there. -/
structure Saved (d after : Disk) (p : Path) (content : ByteArray) : Prop where
  keeps : (d.ensureFolders p.parent).1.KeepsFolders after
  file : after.read p = .ok content
  draft : after.has (draftOf p) = false
  others : ∀ loc, after.locate p ≠ .ok loc → after.locate (draftOf p) ≠ .ok loc →
    after.at? loc = (d.ensureFolders p.parent).1.at? loc

theorem at?_remove_self (d : Disk) {loc : Location} (inside : loc ≠ []) :
    (d.remove loc).at? loc = none := by
  rw [at?, if_neg inside, remove, List.lookup_eq_none_iff]
  intro p member
  have other := of_decide_eq_true (List.mem_filter.mp member).2
  exact bne_iff_ne.mpr (Ne.symm other)

/-- The disk after a file was written in one place and moved to another. -/
def movedInto (d : Disk) (draft target : Location) (content : ByteArray) : Disk :=
  ((d.put draft (.file content)).remove draft).put target (.file content)

theorem at?_movedInto_of_ne {d : Disk} {draft target loc : Location} (content : ByteArray)
    (notDraft : loc ≠ draft) (notTarget : loc ≠ target) :
    (d.movedInto draft target content).at? loc = d.at? loc := by
  rw [movedInto, at?_put_of_ne _ _ notTarget, at?_remove_of_ne _ notDraft,
    at?_put_of_ne _ _ notDraft]

theorem keepsFolders_movedInto {d : Disk} {draft target : Location} (content : ByteArray)
    (freeDraft : d.at? draft ≠ some .folder) (freeTarget : d.at? target ≠ some .folder) :
    d.KeepsFolders (d.movedInto draft target content) where
  here := rfl
  folders loc folder := by
    rw [at?_movedInto_of_ne content (by rintro rfl; exact freeDraft folder)
      (by rintro rfl; exact freeTarget folder), folder]

theorem length_draftName (name : String) : (name ++ ".tmp").length = name.length + 4 :=
  String.length_append ..

/-- The name of a draft leads into the folder, never back. -/
theorem step_draftName (loc : Location) (name : String) :
    step loc (name ++ ".tmp") = loc ++ [name ++ ".tmp"] := by
  refine if_neg fun back => ?_
  have length := congrArg String.length back
  rw [length_draftName, show "..".length = 2 from rfl] at length
  omega

theorem step_draftName_ne (loc : Location) (name : String) :
    step loc (name ++ ".tmp") ≠ step loc name := by
  rw [step_draftName, step]
  intro same
  split at same
  · have length := congrArg List.length same
    rw [List.length_append, List.length_dropLast, List.length_singleton] at length
    omega
  · have names := List.singleton_inj.mp (List.append_cancel_left same)
    have length := congrArg String.length names
    rw [length_draftName] at length
    omega

/-- A path leads on from the folder that its parent leads to. -/
theorem locate_of_parent {d : Disk} {p : Path} (named : p.name ≠ "") {loc : Location}
    (leads : d.locate p.parent = .ok loc) (folder : d.at? loc = some .folder) :
    d.locate p = .ok (step loc p.name) := by
  have further : d.locate (p.parent.child p.name) = .ok (step loc p.name) :=
    locate_child_ok.mpr ⟨loc, leads, folder, rfl⟩
  rwa [Path.child_parent_name named] at further

theorem locate_draftOf {d : Disk} {p : Path} {loc : Location}
    (leads : d.locate p.parent = .ok loc) (folder : d.at? loc = some .folder) :
    d.locate (draftOf p) = .ok (step loc (p.name ++ ".tmp")) :=
  locate_child_ok.mpr ⟨loc, leads, folder, rfl⟩

theorem has_eq_false {d : Disk} {p : Path} {loc : Location} (leads : d.locate p = .ok loc)
    (free : d.at? loc = none) : d.has p = false := by
  simp only [has, look, leads, free, bind, Except.bind]

theorem at?_ne_folder {d : Disk} {p : Path} {loc : Location} (leads : d.locate p = .ok loc)
    (free : d.look p ≠ .ok .folder) : d.at? loc ≠ some .folder :=
  fun folder => free (look_ok.mpr ⟨loc, leads, folder⟩)

theorem saved_movedInto {d : Disk} {p : Path} {draft target : Location} (content : ByteArray)
    (leadsDraft : (d.ensureFolders p.parent).1.locate (draftOf p) = .ok draft)
    (leadsTarget : (d.ensureFolders p.parent).1.locate p = .ok target)
    (freeDraft : (d.ensureFolders p.parent).1.at? draft ≠ some .folder)
    (freeTarget : (d.ensureFolders p.parent).1.at? target ≠ some .folder)
    (apart : draft ≠ target) :
    d.Saved ((d.ensureFolders p.parent).1.movedInto draft target content) p content := by
  have keeps := keepsFolders_movedInto content freeDraft freeTarget
  replace leadsDraft := locate_of_keepsFolders keeps leadsDraft
  replace leadsTarget := locate_of_keepsFolders keeps leadsTarget
  constructor
  case keeps => exact keeps
  case file =>
    exact read_ok.mpr ⟨target, leadsTarget, at?_put_self _ _ (ne_nil_of_not_folder freeTarget)⟩
  case draft =>
    refine has_eq_false leadsDraft ?_
    rw [movedInto, at?_put_of_ne _ _ apart, at?_remove_self _ (ne_nil_of_not_folder freeDraft)]
  case others =>
    intro loc notTarget notDraft
    rw [leadsTarget] at notTarget
    rw [leadsDraft] at notDraft
    exact at?_movedInto_of_ne content (fun same => notDraft (by rw [same]))
      (fun same => notTarget (by rw [same]))

/-- At a path where documents can be saved, every document that can be written is saved. -/
theorem save_of_writable {d : Disk} {p : Path} {v : Json.Value} {text : String}
    (writable : d.Writable p) (written : Json.write v = some text) :
    ∃ after, d.save p v = (after, .ok ()) ∧ d.Saved after p text.toUTF8 := by
  obtain ⟨loc, leads, folder⟩ := look_ok.mp (look_ensureFolders writable.folder)
  have leadsTarget := locate_of_parent writable.named leads folder
  have leadsDraft := locate_draftOf leads folder
  have freeTarget := at?_ne_folder leadsTarget writable.target
  have freeDraft := at?_ne_folder leadsDraft writable.draft
  have apart := step_draftName_ne loc p.name
  refine ⟨_, ?_, saved_movedInto text.toUTF8 leadsDraft leadsTarget freeDraft freeTarget apart⟩
  have made : d.ensureFolders p.parent = ((d.ensureFolders p.parent).1, .ok ()) :=
    Prod.ext rfl writable.folder
  generalize (d.ensureFolders p.parent).1 = opened at *
  have drafted : opened.write (draftOf p) text.toUTF8 = .ok (opened.put _ _) :=
    write_ok.mpr ⟨_, leadsDraft, freeDraft, rfl⟩
  have stays := keepsFolders_put (.file text.toUTF8) freeDraft
  have moved : (opened.put _ _).move (draftOf p) p = .ok (opened.movedInto _ _ _) :=
    move_ok.mpr ⟨_, _, text.toUTF8, locate_of_keepsFolders stays leadsDraft,
      locate_of_keepsFolders stays leadsTarget,
      at?_put_self _ _ (ne_nil_of_not_folder freeDraft),
      by rwa [at?_put_of_ne _ _ (Ne.symm apart)], rfl⟩
  rw [save, made]
  simp only [if_neg writable.named, written, drafted, moved]

/-- Nothing less is enough for a document to be saved. -/
theorem writable_of_save {d after : Disk} {p : Path} {v : Json.Value}
    (saved : d.save p v = (after, .ok ())) : d.Writable p ∧ Json.writable v = true := by
  rw [save] at saved
  split at saved
  · cases saved
  rename_i opened made
  split at saved
  · cases saved
  rename_i named
  split at saved
  · cases saved
  rename_i text written
  split at saved
  · cases saved
  rename_i drafted wrote
  split at saved
  · cases saved
  rename_i moved move
  obtain ⟨draft, leadsDraft, freeDraft, rfl⟩ := write_ok.mp wrote
  obtain ⟨_, target, _, _, leadsTarget, _, freeTarget, _⟩ := move_ok.mp move
  have stays := keepsFolders_put (.file text.toUTF8) freeDraft
  refine ⟨⟨named, by rw [made], ?_, ?_⟩, ?_⟩
  · rw [made]
    intro folder
    obtain ⟨loc, leads, found⟩ := look_ok.mp (look_folder_of_keepsFolders stays folder)
    rw [leadsTarget] at leads
    cases leads
    exact freeTarget found
  · rw [made]
    intro folder
    obtain ⟨loc, leads, found⟩ := look_ok.mp folder
    rw [leadsDraft] at leads
    cases leads
    exact freeDraft found
  · exact Json.writable_of_write written

/-- A document is saved exactly if it can be written and documents can be saved at the path. -/
theorem save_ok_iff {d : Disk} {p : Path} {v : Json.Value} :
    (∃ after, d.save p v = (after, .ok ())) ↔ d.Writable p ∧ Json.writable v = true := by
  constructor
  · rintro ⟨after, saved⟩
    exact writable_of_save saved
  · rintro ⟨writable, fits⟩
    obtain ⟨after, saved, _⟩ := save_of_writable writable (if_pos fits)
    exact ⟨after, saved⟩

/-- What a document that was saved has left. -/
theorem saved_of_save {d after : Disk} {p : Path} {v : Json.Value}
    (saved : d.save p v = (after, .ok ())) :
    ∃ text, Json.write v = some text ∧ d.Saved after p text.toUTF8 := by
  obtain ⟨writable, fits⟩ := writable_of_save saved
  obtain ⟨_, again, effect⟩ := save_of_writable writable (if_pos fits)
  rw [saved] at again
  cases again
  exact ⟨_, if_pos fits, effect⟩

/-- Only a path and its draft were written to. -/
structure WritesOnly (opened after : Disk) (p : Path) : Prop where
  keeps : opened.KeepsFolders after
  others : ∀ loc, after.locate p ≠ .ok loc → after.locate (draftOf p) ≠ .ok loc →
    after.at? loc = opened.at? loc

theorem WritesOnly.refl (opened : Disk) (p : Path) : opened.WritesOnly opened p :=
  ⟨⟨rfl, fun _ => id⟩, fun _ _ _ => rfl⟩

theorem writesOnly_put {opened : Disk} {p : Path} {draft : Location} (content : ByteArray)
    (leads : opened.locate (draftOf p) = .ok draft) (free : opened.at? draft ≠ some .folder) :
    opened.WritesOnly (opened.put draft (.file content)) p where
  keeps := keepsFolders_put _ free
  others loc _ notDraft := by
    rw [locate_of_keepsFolders (keepsFolders_put _ free) leads] at notDraft
    exact at?_put_of_ne _ _ fun same => notDraft (by rw [same])

/-- Where a document was not saved, either nothing was written once the folder of the path was
there or was made as far as it could be, or the draft was written and could not be moved. The cause
is a fault of the disk, unless the path has no last part or the document cannot be written. -/
theorem save_refused {d after : Disk} {p : Path} {v : Json.Value} {failure : Failure}
    (refused : d.save p v = (after, .error failure)) :
    (after = (d.ensureFolders p.parent).1 ∧
      ((∃ fault, failure = .disk fault) ∨ p.name = "" ∨ failure = .integerRange)) ∨
    ∃ draft text fault, Json.write v = some text ∧ failure = .disk fault ∧
      (d.ensureFolders p.parent).1.locate (draftOf p) = .ok draft ∧
      (d.ensureFolders p.parent).1.at? draft ≠ some .folder ∧
      after = (d.ensureFolders p.parent).1.put draft (.file text.toUTF8) := by
  rw [save] at refused
  split at refused
  · rename_i fault opening
    cases refused
    rw [opening]
    exact .inl ⟨rfl, .inl ⟨fault, rfl⟩⟩
  rename_i opened opening
  rw [opening]
  split at refused
  · rename_i nameless
    cases refused
    exact .inl ⟨rfl, .inr (.inl nameless)⟩
  split at refused
  · cases refused
    exact .inl ⟨rfl, .inr (.inr rfl)⟩
  rename_i text written
  split at refused
  · rename_i fault _
    cases refused
    exact .inl ⟨rfl, .inl ⟨fault, rfl⟩⟩
  rename_i drafted wrote
  split at refused
  · rename_i fault _
    cases refused
    obtain ⟨draft, leads, free, made⟩ := write_ok.mp wrote
    exact .inr ⟨draft, text, fault, written, rfl, leads, free, made⟩
  · cases refused

/-- Whatever comes of it, saving writes only to the path and its draft, once the folder of the path
was there or was made as far as it could be. -/
theorem writesOnly_save (d : Disk) (p : Path) (v : Json.Value) :
    (d.ensureFolders p.parent).1.WritesOnly (d.save p v).1 p := by
  cases result : d.save p v with
  | mk after outcome =>
    cases outcome with
    | ok =>
      obtain ⟨_, _, effect⟩ := saved_of_save result
      exact ⟨effect.keeps, effect.others⟩
    | error failure =>
      rcases save_refused result with ⟨rfl, _⟩ | ⟨draft, text, _, _, _, leads, free, rfl⟩
      · exact .refl _ _
      · exact writesOnly_put _ leads free

/-- Saving at a path with a last part fails for the disk or for an integer. -/
theorem failure_of_save {d after : Disk} {p : Path} {v : Json.Value} {failure : Failure}
    (named : p.name ≠ "") (refused : d.save p v = (after, .error failure)) :
    (∃ fault, failure = .disk fault) ∨ failure = .integerRange := by
  rcases save_refused refused with ⟨_, cause⟩ | ⟨_, _, fault, _, cause, _⟩
  · rwa [or_iff_right named] at cause
  · exact .inl ⟨fault, cause⟩

end Disk

end ArrayScene

import ArrayScene.Proofs.Store.PathText
import ArrayScene.Proofs.Store.Saving

/-!
# Saving all or nothing

What is left of the disk after a document was saved or was not. The target has either all of its
new content or what it had before, the draft is gone once the target is written, and the only other
changes are folders made on the way to the path where nothing was.
-/
namespace ArrayScene

namespace Disk

/-- The path, or the first of its parts alone, leads to the location. -/
def OnWay (d : Disk) (p : Path) (loc : Location) : Prop :=
  ∃ first, first <+: p.parts ∧ d.locate ⟨p.root, first⟩ = .ok loc

theorem onWay_of_locate {d : Disk} {p : Path} {loc : Location} (leads : d.locate p = .ok loc) :
    d.OnWay p loc := ⟨p.parts, List.prefix_rfl, leads⟩

theorem OnWay.longer {d : Disk} {root : PathRoot} {above : List String} {loc : Location}
    (part : String) (way : d.OnWay ⟨root, above.reverse⟩ loc) :
    d.OnWay ⟨root, (part :: above).reverse⟩ loc := by
  obtain ⟨first, begins, leads⟩ := way
  refine ⟨first, ?_, leads⟩
  rw [List.reverse_cons]
  exact begins.trans (List.prefix_append _ _)

theorem OnWay.of_keepsFolders {d after : Disk} {p : Path} {loc : Location}
    (keeps : d.KeepsFolders after) (way : d.OnWay p loc) : after.OnWay p loc := by
  obtain ⟨first, begins, leads⟩ := way
  exact ⟨first, begins, locate_of_keepsFolders keeps leads⟩

/-- Making a folder changes nothing but the place that its path leads to. -/
theorem at?_of_ensureFolder {d after : Disk} {p : Path} (made : d.ensureFolder p = .ok after)
    (loc : Location) : after.at? loc = d.at? loc ∨ after.OnWay p loc := by
  rcases ensureFolder_cases made with ⟨_, rfl⟩ | ⟨place, leads, free, rfl⟩
  · exact .inl rfl
  · by_cases same : loc = place
    case neg => exact .inl (at?_put_of_ne d .folder same)
    case pos =>
      subst same
      exact .inr (onWay_of_locate
        (locate_of_keepsFolders (gainsFolders_put free).keepsFolders leads))

/-- Making folders, as far as it goes, changes nothing but places on the way of the path. -/
theorem MakesFolders.elsewhere {root : PathRoot} {d after : Disk} {parts : List String}
    {outcome : Except DiskFault Unit} (makes : MakesFolders root d parts after outcome)
    (loc : Location) :
    after.at? loc = d.at? loc ∨ after.OnWay ⟨root, parts.reverse⟩ loc := by
  induction makes with
  | refused => exact .inl rfl
  | made ensured => exact at?_of_ensureFolder ensured loc
  | stopped part _ ih => exact ih.imp_right (OnWay.longer part)
  | halfway part _ _ ih => exact ih.imp_right (OnWay.longer part)
  | further _ ensured ih =>
    rcases at?_of_ensureFolder ensured loc with same | way
    · rw [same]
      exact ih.imp_right fun before =>
        (before.longer _).of_keepsFolders (ensureFolder_ok ensured).1.keepsFolders
    · exact .inr way

/-- The folders made for a path are on its way and are where nothing was. -/
theorem entries_ensureFolders (d : Disk) (p : Path) (loc : Location) :
    (d.ensureFolders p).1.at? loc = d.at? loc ∨
      d.at? loc = none ∧ (d.ensureFolders p).1.at? loc = some .folder ∧
        (d.ensureFolders p).1.OnWay p loc := by
  have way := (d.makesFolders_ensureFolders p).elsewhere loc
  rw [List.reverse_reverse] at way
  rcases (d.gainsFolders_ensureFolders p).entries loc with same | ⟨free, made⟩
  · exact .inl same
  · exact way.imp_right fun onWay => ⟨free, made, onWay⟩

/-- A document that was not saved has left nothing but its draft, once the folder of the path was
there or was made as far as it could be. -/
theorem at?_of_refused {d after : Disk} {p : Path} {v : Json.Value} {failure : Failure}
    (refused : d.save p v = (after, .error failure)) {loc : Location}
    (apart : after.locate (draftOf p) ≠ .ok loc) :
    after.at? loc = (d.ensureFolders p.parent).1.at? loc := by
  rcases save_refused refused with ⟨rfl, _⟩ | ⟨draft, text, _, _, _, leads, free, rfl⟩
  · rfl
  · rw [locate_of_keepsFolders (keepsFolders_put _ free) leads] at apart
    exact at?_put_of_ne _ _ fun same => apart (by rw [same])

/-- A document that cannot be written has left no draft either. -/
theorem save_of_unwritable (d : Disk) (p : Path) {v : Json.Value}
    (unwritable : Json.write v = none) :
    ∃ failure, d.save p v = ((d.ensureFolders p.parent).1, .error failure) := by
  cases result : d.save p v with
  | mk after outcome =>
    cases outcome with
    | ok =>
      have fits := (writable_of_save result).2
      rw [Json.write_eq_none_iff.mp unwritable] at fits
      cases fits
    | error failure =>
      rcases save_refused result with ⟨rfl, _⟩ | ⟨_, _, _, written, _⟩
      · exact ⟨failure, rfl⟩
      · rw [unwritable] at written
        cases written

/-- What a document that was saved has done to the disk: the path leads to a file with its text and
nothing to a draft, and elsewhere nothing has changed but for folders above the path, which were
made where nothing was. -/
structure Replaced (d after : Disk) (p : Path) (content : ByteArray) : Prop where
  file : after.read p = .ok content
  draft : after.has (draftOf p) = false
  others : ∀ loc, after.locate p ≠ .ok loc → after.locate (draftOf p) ≠ .ok loc →
    after.at? loc = d.at? loc ∨
      d.at? loc = none ∧ after.at? loc = some .folder ∧ after.OnWay p.parent loc

theorem Saved.replaced {d after : Disk} {p : Path} {content : ByteArray}
    (saved : d.Saved after p content) : d.Replaced after p content where
  file := saved.file
  draft := saved.draft
  others loc notTarget notDraft := by
    rw [saved.others loc notTarget notDraft]
    rcases d.entries_ensureFolders p.parent loc with same | ⟨free, made, way⟩
    · exact .inl same
    · exact .inr ⟨free, made, way.of_keepsFolders saved.keeps⟩

end Disk

/-- Saving is all or nothing, for every disk, every path with a last part and every document. The
draft has the text of the path with `.tmp` behind it. The document is saved exactly if it can be
written, the folder of the path is there or can be made, and neither the path nor the draft leads to
a folder. Then the path leads to a file with exactly its text, there is no draft, and elsewhere
nothing has changed but for missing folders above the path that were made. Otherwise every file that
was there is there with its content, that of the path among them and only the draft excepted. And if
the document cannot be written, there are the same files as before, the draft among them. -/
theorem save_all_or_nothing (d : Disk) {p : Path} (named : p.name ≠ "") (v : Json.Value) :
    (Disk.draftOf p).toString = p.toString ++ ".tmp" ∧
    ((∃ after, d.save p v = (after, .ok ())) ↔ d.Writable p ∧ Json.writable v = true) ∧
    (∀ after, d.save p v = (after, .ok ()) →
      ∃ text, Json.write v = some text ∧ d.Replaced after p text.toUTF8) ∧
    (∀ after failure, d.save p v = (after, .error failure) →
      ∀ loc content, after.locate (Disk.draftOf p) ≠ .ok loc →
        d.at? loc = some (.file content) → after.at? loc = some (.file content)) ∧
    (Json.write v = none →
      ∃ after failure, d.save p v = (after, .error failure) ∧
        ∀ loc content,
          after.at? loc = some (.file content) ↔ d.at? loc = some (.file content)) := by
  have gains := d.gainsFolders_ensureFolders p.parent
  refine ⟨Path.toString_lengthened named ".tmp", Disk.save_ok_iff, ?saved, ?refused, ?unwritable⟩
  case saved =>
    intro after result
    obtain ⟨text, written, effect⟩ := Disk.saved_of_save result
    exact ⟨text, written, effect.replaced⟩
  case refused =>
    intro after failure result loc content apart file
    rw [Disk.at?_of_refused result apart]
    exact gains.at?_of_file file
  case unwritable =>
    intro unwritable
    obtain ⟨failure, result⟩ := d.save_of_unwritable p unwritable
    exact ⟨_, failure, result, fun loc content => ⟨gains.file_of_at?, gains.at?_of_file⟩⟩

/-- A document saved in a folder that is made, one whose target is a folder next to a file, and one
that cannot be written at a path where a file and its draft are. -/
theorem save_all_or_nothing_nested :
    (⟨.relative, ["out", "a.json"]⟩ : Path).name ≠ "" ∧
    (∃ after, (Disk.startingIn ["work"]).save ⟨.relative, ["out", "a.json"]⟩ (.arr [.int 1]) =
        (after, .ok ()) ∧
      ∃ text, Json.write (.arr [.int 1]) = some text ∧
        (Disk.startingIn ["work"]).Replaced after ⟨.relative, ["out", "a.json"]⟩ text.toUTF8) ∧
    (∃ after failure,
      Disk.save ⟨[(["a.json"], .folder), (["b.json"], .file "1".toUTF8)], []⟩
        ⟨.slash, ["a.json"]⟩ .null = (after, .error failure) ∧
      after.at? ["b.json"] = some (.file "1".toUTF8)) ∧
    Json.write (.int 0x10000000000000000) = none ∧
    ∃ after failure,
      Disk.save ⟨[(["a.json"], .file "1".toUTF8), (["a.json.tmp"], .file "2".toUTF8)], []⟩
        ⟨.relative, ["a.json"]⟩ (.int 0x10000000000000000) = (after, .error failure) ∧
      after.at? ["a.json"] = some (.file "1".toUTF8) ∧
      after.at? ["a.json.tmp"] = some (.file "2".toUTF8) := by
  refine ⟨by decide, ?saved, ?refused, by decide, ?unwritable⟩
  case saved =>
    have writable : (Disk.startingIn ["work"]).Writable ⟨.relative, ["out", "a.json"]⟩ :=
      ⟨by decide, by rfl, by decide, by decide⟩
    have law := save_all_or_nothing (Disk.startingIn ["work"])
      (p := ⟨.relative, ["out", "a.json"]⟩) (by decide) (.arr [.int 1])
    obtain ⟨after, result⟩ := law.2.1.mpr ⟨writable, by decide⟩
    exact ⟨after, result, law.2.2.1 after result⟩
  case refused =>
    have law := save_all_or_nothing
      ⟨[(["a.json"], .folder), (["b.json"], .file "1".toUTF8)], []⟩
      (p := ⟨.slash, ["a.json"]⟩) (by decide) .null
    exact ⟨_, _, rfl, law.2.2.2.1 _ _ rfl ["b.json"] "1".toUTF8 (by decide) (by decide)⟩
  case unwritable =>
    have law := save_all_or_nothing
      ⟨[(["a.json"], .file "1".toUTF8), (["a.json.tmp"], .file "2".toUTF8)], []⟩
      (p := ⟨.relative, ["a.json"]⟩) (by decide) (.int 0x10000000000000000)
    obtain ⟨after, failure, result, same⟩ := law.2.2.2.2 (by decide)
    exact ⟨after, failure, result, (same _ _).mpr (by decide), (same _ _).mpr (by decide)⟩

end ArrayScene

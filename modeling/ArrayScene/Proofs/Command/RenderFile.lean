import ArrayScene.Proofs.Command.Targets
import ArrayScene.Proofs.Console.Printing

/-!
# The work on one request file

What can be wrong with a request file that can be read, and what the work on it comes to. The
message of a failure is printed as markup, and it can hold text from the file: if that has a fault,
such as a closing tag where none is open, the fault escapes instead of the failure being noted.
-/
namespace ArrayScene.Command

/-- Whether a request file has no scene. -/
def fails (disk : Disk) (file : Path) : Bool :=
  match sceneOf disk file with
  | .ok _ => false
  | .error _ => true

/-- If a request file has no scene, what is wrong with it can be printed. -/
def Speaks (console : Console) (disk : Disk) (file : Path) : Prop :=
  ∀ failure, sceneOf disk file = .error failure →
    ∃ shown, Markup.print console failure.message.toList = .ok shown

theorem sceneOf_congr {disk d : Disk} {file : Path} (same : d.read file = disk.read file) :
    sceneOf d file = sceneOf disk file := by
  simp only [sceneOf, Disk.loadRequest, Disk.loadObject, same]

/-- With a file that can be read, nothing but its request can be wrong. -/
theorem reported_of_sceneOf {disk : Disk} {file : Path} {content : ByteArray} {failure : Failure}
    (readable : disk.read file = .ok content) (refused : sceneOf disk file = .error failure) :
    failure.reported = true := by
  rcases error_of_bind_eq_error refused with loading | ⟨r, _, rendering⟩
  · rcases error_of_bind_eq_error loading with reading | ⟨fields, _, validation⟩
    · rw [Disk.loadObject, readable] at reading
      simp only at reading
      split at reading <;> cases reading <;> rfl
    · split at validation <;> cases validation
      rfl
  · split at rendering
    · cases rendering
    · rename_i fault stopped
      cases rendering
      exact (Node.ofBuilding_of_ofSubject (Scene.render_eq_error_iff.mp stopped)).ofRequest

/-- A rendered scene has a document in every format. -/
theorem Target.exists_document {t : Target} (positive : 1 ≤ t.unitSize) {disk : Disk} {file : Path}
    {s : Scene} (scene : sceneOf disk file = .ok s) : ∃ v, t.documentOf file s = .ok v := by
  unfold documentOf
  split
  · exact ⟨_, rfl⟩
  · obtain ⟨r, _, rendering⟩ := exists_of_bind_eq_ok scene
    split at rendering
    · rename_i found rendered
      cases rendering
      obtain ⟨sketch, converted⟩ := Sketch.ofScene_of_render (t.seeds file) positive rendered
      exact ⟨sketch.toJson, by rw [converted]; rfl⟩
    · cases rendering

section Print

variable (console : Console) {path : String} (plain : '[' ∉ path.toList)
include plain

/-- As much of the line about a failure can be printed as of its message. -/
theorem check_failed (message : String) :
    Markup.check console (Markup.tokens ("[red]Failed[/] " ++ path ++ ": " ++ message).toList) =
      Markup.check console (Markup.tokens message.toList) := by
  have text : ("[red]Failed[/] " ++ path ++ ": " ++ message).toList =
      '[' :: ("red".toList ++ ']' :: (['F', 'a', 'i', 'l', 'e'] ++ 'd' :: '[' :: '/' :: ']' ::
        ((' ' :: path.toList ++ [':']) ++ ' ' :: message.toList))) := by
    simp
  have brackets : '[' ∉ ' ' :: path.toList ++ [':'] := by
    simp [plain]
  rw [text, Markup.check_styled (by decide) (by decide) (by decide) (by decide),
    Markup.check_append brackets (by decide) (by decide)]

theorem check_wrote :
    Markup.check console (Markup.tokens ("[green]Wrote[/] " ++ path).toList) = .ok () := by
  have text : ("[green]Wrote[/] " ++ path).toList =
      '[' :: ("green".toList ++ ']' :: (['W', 'r', 'o', 't'] ++ 'e' :: '[' :: '/' :: ']' ::
        (' ' :: path.toList))) := by
    simp
  rw [text, Markup.check_styled (by decide) (by decide) (by decide) (by decide)]
  exact Markup.check_of_no_bracket console (by simp [plain])

theorem check_noFiles :
    Markup.check console (Markup.tokens ("[yellow]No IR files found in " ++ path ++ "[/]").toList) =
      .ok () := by
  have text : ("[yellow]No IR files found in " ++ path ++ "[/]").toList =
      '[' :: ("yellow".toList ++ ']' ::
        (("No IR files found in ".toList ++ path.toList) ++ ['[', '/', ']'])) := by
    simp
  rw [text]
  exact Markup.check_styled_text (by decide) (by simp [plain])

end Print

section Step

variable {console : Console} {t : Target} {disk d : Disk} {file : Path}

theorem renderFile_of_failure {failure : Failure} (plain : '[' ∉ file.toString.toList)
    (refused : sceneOf d file = .error failure) (reported : failure.reported = true)
    (printable : ∃ shown, Markup.print console failure.message.toList = .ok shown) :
    ∃ line, renderFile console t d file = (d, .ok (line, .failed)) := by
  have readable :=
    (check_failed console plain failure.message).trans (Markup.print_ok_iff.mp printable)
  obtain ⟨line, printed⟩ := Console.line_of_check readable
  refine ⟨line, ?_⟩
  simp only [renderFile, refused, reported, if_true, printed]
  rfl

theorem renderFile_of_scene (console : Console) {after : Disk} {s : Scene}
    (plain : '[' ∉ (t.pathFor file).toString.toList) (scene : sceneOf d file = .ok s)
    (saved : t.save d file s = (after, .ok ())) :
    ∃ line, renderFile console t d file = (after, .ok (line, .wrote)) := by
  obtain ⟨line, printed⟩ := Console.line_of_check (check_wrote console plain)
  refine ⟨line, ?_⟩
  simp only [renderFile, scene, saved, printed]
  rfl

end Step

end ArrayScene.Command

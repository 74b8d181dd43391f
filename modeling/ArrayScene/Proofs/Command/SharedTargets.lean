import ArrayScene.Proofs.Command.Agreement
import ArrayScene.Proofs.Source.Description

/-!
# Targets that request files share

A target is named after the stem of its request file. The stem of a name that ends in `.json` is
what stands before that ending, except that `.json` alone is its own stem, since a point in front
begins no suffix. So two request files of a folder have one target exactly if they are `.json` and
`.json.json`, and then the scene of the second one is written over that of the first. All others are
written to places of their own.
-/
namespace ArrayScene

namespace Path

theorem splitLastPoint_append {suffix : List Char} (plain : '.' ∉ suffix) (front : List Char) :
    splitLastPoint (front ++ '.' :: suffix) = some (front, suffix) := by
  have behind : ∀ c ∈ suffix.reverse, decide (c ≠ '.') = true := by
    intro c member
    refine decide_eq_true fun point => plain ?_
    rwa [← point, ← List.mem_reverse]
  have reversed : (front ++ '.' :: suffix).reverse =
      suffix.reverse ++ '.' :: front.reverse := by simp
  have before : (front ++ '.' :: suffix).reverse.dropWhile (· ≠ '.') = '.' :: front.reverse := by
    rw [reversed, List.dropWhile_append_of_pos behind]
    rfl
  have after : (front ++ '.' :: suffix).reverse.takeWhile (· ≠ '.') = suffix.reverse := by
    rw [reversed, List.takeWhile_append_of_pos behind]
    simp
  rw [splitLastPoint, before, after, List.reverse_reverse]
  simp only [List.reverse_reverse]

/-- The suffix `.json` is taken off every name but the one that has nothing before it. -/
theorem stemOf_append_json (front : String) :
    stemOf (front ++ ".json") = if front = "" then ".json" else front := by
  have split : splitLastPoint (front ++ ".json").toList =
      some (front.toList, ['j', 's', 'o', 'n']) := by
    rw [String.toList_append]
    exact splitLastPoint_append (by decide) front.toList
  rw [stemOf, split]
  by_cases bare : front = ""
  · subst bare
    rfl
  · have some_front : front.toList ≠ [] := fun empty => bare (String.toList_eq_nil_iff.mp empty)
    simp [some_front, bare]

theorem stemOf_append_json_eq_iff {front other : String} :
    stemOf (front ++ ".json") = stemOf (other ++ ".json") ↔
      front = other ∨ front = "" ∧ other = ".json" ∨ front = ".json" ∧ other = "" := by
  rw [stemOf_append_json, stemOf_append_json]
  by_cases bare : front = "" <;> by_cases bare' : other = ""
  · simp [bare, bare']
  · rw [if_pos bare, if_neg bare', eq_comm]
    simp [bare, Ne.symm bare']
  · rw [if_neg bare, if_pos bare']
    simp [bare, bare']
  · rw [if_neg bare, if_neg bare']
    simp [bare, bare']

end Path

namespace Command

/-- A request file is one of the folder whose name ends in `.json`. -/
theorem exists_front_of_mem_requestFiles {d : Disk} {folder file : Path}
    (listed : file ∈ d.requestFiles folder) :
    ∃ front : String, file = folder.child (front ++ ".json") := by
  obtain ⟨name, within, rfl⟩ := List.mem_map.mp listed
  obtain ⟨front, text⟩ := List.isSuffixOf_iff_suffix.mp (List.mem_filter.mp within).2
  refine ⟨String.ofList front, congrArg folder.child (String.toList_inj.mp ?_)⟩
  rw [String.toList_append, String.toList_ofList, text]

theorem Target.pathFor_eq_iff {t : Target} {file other : Path} :
    t.pathFor file = t.pathFor other ↔ file.stem = other.stem := by
  constructor
  · intro same
    have names : t.nameFor file = t.nameFor other := by
      rw [← t.name_pathFor, ← t.name_pathFor, same]
    unfold nameFor at names
    rw [← String.toList_inj, String.toList_append, String.toList_append] at names
    exact String.toList_inj.mp (List.append_cancel_right names)
  · intro stems
    rw [pathFor, pathFor, stems]

/-- Two different request files of a folder have the same target exactly if one is named `.json` and
the other one `.json.json`, wherever the targets are and in either format. All others have no place
in common, for their targets or for the drafts of these. -/
theorem targets_shared_by_bare_suffix_only {d : Disk} {folder file other : Path} (t : Target)
    (listed : file ∈ d.requestFiles folder) (listed' : other ∈ d.requestFiles folder)
    (different : file ≠ other) :
    (t.pathFor file = t.pathFor other ↔
      file.name = ".json" ∧ other.name = ".json.json" ∨
        file.name = ".json.json" ∧ other.name = ".json") ∧
    ∀ (e : Disk) (loc : Location), t.Uses e file loc → t.Uses e other loc →
      file.name = ".json" ∧ other.name = ".json.json" ∨
        file.name = ".json.json" ∧ other.name = ".json" := by
  obtain ⟨front, rfl⟩ := exists_front_of_mem_requestFiles listed
  obtain ⟨front', rfl⟩ := exists_front_of_mem_requestFiles listed'
  have fronts : front ≠ front' := fun same => different (by rw [same])
  have named (text : String) (literal : String) :
      text ++ ".json" = literal ++ ".json" ↔ text = literal := by
    rw [← String.toList_inj, String.toList_append, String.toList_append,
      List.append_cancel_right_eq, String.toList_inj]
  have bare (text : String) : text ++ ".json" = ".json" ↔ text = "" := named text ""
  have double (text : String) : text ++ ".json" = ".json.json" ↔ text = ".json" :=
    named text ".json"
  have shared : t.pathFor (folder.child (front ++ ".json")) =
      t.pathFor (folder.child (front' ++ ".json")) ↔
        front = "" ∧ front' = ".json" ∨ front = ".json" ∧ front' = "" := by
    rw [Target.pathFor_eq_iff, Path.stem, Path.stem, Path.name_child, Path.name_child,
      Path.stemOf_append_json_eq_iff, or_iff_right fronts]
  simp only [Path.name_child, bare, double]
  exact ⟨shared, fun e loc uses used => shared.mp (Target.eq_of_uses uses used)⟩

/-- The target of a scene file holds one scene only. -/
theorem Target.eq_of_holds {t : Target} {d : Disk} {file other : Path} {s s' : Scene}
    (format : t.format = .scene) (same : t.pathFor file = t.pathFor other)
    (holds : t.Holds d file s) (holds' : t.Holds d other s') : s = s' := by
  obtain ⟨v, bytes, document, content, readBack⟩ := holds.readBack
  obtain ⟨v', bytes', document', content', readBack'⟩ := holds'.readBack
  simp only [documentOf, format, Except.ok.injEq] at document document'
  subst document document'
  rw [same, content', Except.ok.injEq] at content
  rw [← content, readBack', s.toJson_eq_fields, s'.toJson_eq_fields, Option.some.injEq,
    Json.Value.obj.injEq] at readBack
  have found := s.ofFields?_fields
  rw [← readBack, s'.ofFields?_fields] at found
  exact (Option.some.inj found).symm

/-- A run over two files whose scenes are both written. -/
theorem renderFiles_pair_of_wrote {console : Console} {t : Target} {d mid after : Disk}
    {file other : Path}
    {line line' : String} (work : renderFile console t d file = (mid, .ok (line, .wrote)))
    (work' : renderFile console t mid other = (after, .ok (line', .wrote))) :
    ∃ printed, renderFiles console t d false [file, other] = ⟨after, printed, .exit 0⟩ := by
  refine ⟨line ++ (line' ++ ""), ?_⟩
  simp [renderFiles, work, work']

/-- A request for a number under a name of its own. -/
def namedNumber (name : String) : Json.Value :=
  .obj [("name", .str name), ("type", .obj [("kind", .str "float")])]

theorem storable_namedNumber (name : String) : Json.Storable (namedNumber name) := by
  refine .obj (by simp) ?_
  simp only [List.forall_mem_cons]
  refine ⟨.str name, .obj (by simp) ?_, List.forall_mem_nil _⟩
  exact List.forall_mem_singleton.mpr (.str "float")

/-- A disk with the two request files whose targets are the same. -/
def bareSuffixes : Disk :=
  (((Disk.startingIn ["w"]).put ["w", "ir"] .folder).put ["w", "ir", ".json.json"]
    (.file (String.ofList (Json.layout 0 (namedNumber "second"))).toUTF8)).put ["w", "ir", ".json"]
      (.file (String.ofList (Json.layout 0 (namedNumber "first"))).toUTF8)

theorem requestFiles_bareSuffixes :
    bareSuffixes.requestFiles ⟨.relative, ["ir"]⟩ =
      [⟨.relative, ["ir", ".json"]⟩, ⟨.relative, ["ir", ".json.json"]⟩] := by
  have names : bareSuffixes.list ⟨.relative, ["ir"]⟩ = [".json", ".json.json"] := by
    show List.mergeSort [".json", ".json.json"] _ = _
    exact List.mergeSort_of_pairwise (by simp)
  rw [Disk.requestFiles, names]
  rfl

/-- The hidden names `.json` and `.json.json` have one target in every folder and format, and the
names `a.json` and `b.json` have nothing in common. -/
theorem targets_shared_by_bare_suffix :
    let ir : Path := ⟨.relative, ["ir"]⟩
    ir.child ".json" ∈ bareSuffixes.requestFiles ir ∧
      ir.child ".json.json" ∈ bareSuffixes.requestFiles ir ∧
      ir.child ".json" ≠ ir.child ".json.json" ∧
      (∀ t : Target, t.pathFor (ir.child ".json") = t.pathFor (ir.child ".json.json")) ∧
      ir.child "a.json" ∈ (besideNumber closingKind).requestFiles ir ∧
      ir.child "b.json" ∈ (besideNumber closingKind).requestFiles ir ∧
      ir.child "a.json" ≠ ir.child "b.json" ∧
      ∀ (t : Target) (e : Disk) (loc : Location), t.Uses e (ir.child "a.json") loc →
        ¬t.Uses e (ir.child "b.json") loc := by
  intro ir
  have first : ir.child ".json" ∈ bareSuffixes.requestFiles ir := by
    rw [requestFiles_bareSuffixes]
    exact List.mem_cons_self
  have second : ir.child ".json.json" ∈ bareSuffixes.requestFiles ir := by
    rw [requestFiles_bareSuffixes]
    exact List.mem_cons_of_mem _ List.mem_cons_self
  have listed : ir.child "a.json" ∈ (besideNumber closingKind).requestFiles ir := by
    rw [requestFiles_besideNumber]
    exact List.mem_cons_self
  have listed' : ir.child "b.json" ∈ (besideNumber closingKind).requestFiles ir := by
    rw [requestFiles_besideNumber]
    exact List.mem_cons_of_mem _ List.mem_cons_self
  have apart : ir.child ".json" ≠ ir.child ".json.json" := by decide
  have apart' : ir.child "a.json" ≠ ir.child "b.json" := by decide
  have plain : ¬((ir.child "a.json").name = ".json" ∧ (ir.child "b.json").name = ".json.json" ∨
      (ir.child "a.json").name = ".json.json" ∧ (ir.child "b.json").name = ".json") := by decide
  refine ⟨first, second, apart, fun t => ?_, listed, listed', apart', fun t e loc uses used => ?_⟩
  · exact (targets_shared_by_bare_suffix_only t first second apart).1.mpr (.inl ⟨rfl, rfl⟩)
  · exact plain ((targets_shared_by_bare_suffix_only t listed listed' apart').2 e loc uses used)

/-- The scene of a file with such a request. -/
theorem sceneOf_namedNumber {d : Disk} {file : Path} {name : String} (named : name ≠ "")
    (content : d.read file = .ok (String.ofList (Json.layout 0 (namedNumber name))).toUTF8) :
    sceneOf d file = .ok ⟨name, [.unit], 1, 1⟩ := by
  have described : Request.ofJson (.obj (Json.putNew "name" (.str file.stem)
      [("name", .str name), ("type", .obj [("kind", .str "float")])])) =
      .ok ⟨name, .type .float⟩ :=
    Request.ofJson_eq_ok_iff.mpr (.type (.inr ⟨rfl, named⟩) rfl (.float rfl) (.inl rfl))
  have loaded := Disk.loadObject_ok_iff.mpr
    ⟨_, content, Json.readBytes_layout (storable_namedNumber name)⟩
  exact sceneOf_ok_iff.mpr ⟨_, Disk.loadRequest_ok_iff.mpr ⟨_, loaded, described⟩, rfl⟩

/-- That disk with a file written as the target of both. -/
def overBareSuffixes (content : ByteArray) : Disk :=
  (bareSuffixes.put ["w", "out"] .folder).put ["w", "out", ".json.scene.json"] (.file content)

theorem save_bareSuffixes {v : Json.Value} {text : String} (written : Json.write v = some text) :
    bareSuffixes.save ⟨.relative, ["out", ".json.scene.json"]⟩ v =
      (overBareSuffixes text.toUTF8, .ok ()) := by
  simp only [Disk.save, written]
  rfl

theorem save_overBareSuffixes (content : ByteArray) {v : Json.Value} {text : String}
    (written : Json.write v = some text) :
    (overBareSuffixes content).save ⟨.relative, ["out", ".json.scene.json"]⟩ v =
      (overBareSuffixes text.toUTF8, .ok ()) := by
  simp only [Disk.save, written]
  rfl

theorem sceneOf_first :
    sceneOf bareSuffixes ⟨.relative, ["ir", ".json"]⟩ = .ok ⟨"first", [.unit], 1, 1⟩ :=
  sceneOf_namedNumber (by decide) rfl

theorem sceneOf_second {d : Disk} (same : d.read ⟨.relative, ["ir", ".json.json"]⟩ =
      bareSuffixes.read ⟨.relative, ["ir", ".json.json"]⟩) :
    sceneOf d ⟨.relative, ["ir", ".json.json"]⟩ = .ok ⟨"second", [.unit], 1, 1⟩ :=
  sceneOf_namedNumber (by decide) same

/-- A run writes the two scenes to one place, and the second one stays there. -/
theorem run_bareSuffixes (seeds : Path → Seeds) :
    ∃ text, Json.write (Scene.toJson ⟨"second", [.unit], 1, 1⟩) = some text ∧
      (run .plain seeds [] irToOut bareSuffixes).ending = .exit 0 ∧
      (run .plain seeds [] irToOut bareSuffixes).disk = overBareSuffixes text.toUTF8 := by
  have target : (targetOf seeds irToOutOptions .default .scene).pathFor
      ⟨.relative, ["ir", ".json"]⟩ = ⟨.relative, ["out", ".json.scene.json"]⟩ := by rfl
  have target' : (targetOf seeds irToOutOptions .default .scene).pathFor
      ⟨.relative, ["ir", ".json.json"]⟩ = ⟨.relative, ["out", ".json.scene.json"]⟩ := by rfl
  obtain ⟨text, written⟩ : ∃ text, Json.write (Scene.toJson ⟨"first", [.unit], 1, 1⟩) = some text :=
    ⟨_, rfl⟩
  obtain ⟨text', written'⟩ :
      ∃ text, Json.write (Scene.toJson ⟨"second", [.unit], 1, 1⟩) = some text := ⟨_, rfl⟩
  have scene := sceneOf_first
  have scene' := sceneOf_second (d := overBareSuffixes text.toUTF8) rfl
  obtain ⟨_, work⟩ := renderFile_of_scene .plain
    (t := targetOf seeds irToOutOptions .default .scene)
    (by rw [target]; decide) scene (by
      rw [Target.save_of_document rfl, target]
      exact save_bareSuffixes written)
  obtain ⟨_, work'⟩ := renderFile_of_scene .plain
    (t := targetOf seeds irToOutOptions .default .scene)
    (by rw [target']; decide) scene' (by
      rw [Target.save_of_document rfl, target']
      exact save_overBareSuffixes text.toUTF8 written')
  have asked : Invocation.ofWords irToOut = some (.render irToOutOptions) := rfl
  have resolved : Settings.resolve [] none bareSuffixes = .ok .default := rfl
  have known : Format.ofName? (formatName none .default) = some .scene := rfl
  obtain ⟨_, whole⟩ : ∃ printed, run .plain seeds [] irToOut bareSuffixes = _ :=
    run_of_settings asked resolved known (by decide)
  have files : bareSuffixes.requestFiles
      (irToOutOptions.inputDir.getD Settings.default.inputDir) = _ := requestFiles_bareSuffixes
  obtain ⟨_, both⟩ := renderFiles_pair_of_wrote work work'
  rw [whole, files, both]
  exact ⟨text', written', rfl, rfl⟩

/-- Both files are rendered and the run ends with exit code zero, yet of the two scenes only the
second one is left: it was written over the first one. -/
theorem bare_suffix_overwritten :
    let t := targetOf (fun _ _ => (5, 7)) irToOutOptions .default .scene
    let first : Path := ⟨.relative, ["ir", ".json"]⟩
    let second : Path := ⟨.relative, ["ir", ".json.json"]⟩
    let outcome := run .plain (fun _ _ => (5, 7)) [] irToOut bareSuffixes
    bareSuffixes.requestFiles ⟨.relative, ["ir"]⟩ = [first, second] ∧ first ≠ second ∧
      t.pathFor first = t.pathFor second ∧
      sceneOf bareSuffixes first = .ok ⟨"first", [.unit], 1, 1⟩ ∧
      sceneOf bareSuffixes second = .ok ⟨"second", [.unit], 1, 1⟩ ∧
      outcome.ending = .exit 0 ∧
      t.Holds outcome.disk second ⟨"second", [.unit], 1, 1⟩ ∧
      ¬t.Holds outcome.disk first ⟨"first", [.unit], 1, 1⟩ := by
  intro t first second outcome
  obtain ⟨text, written, ending, disk⟩ := run_bareSuffixes fun _ _ => (5, 7)
  have target : t.pathFor second = ⟨.relative, ["out", ".json.scene.json"]⟩ := by decide
  have shared : t.pathFor first = t.pathFor second := by decide
  have left_over : t.Holds outcome.disk second ⟨"second", [.unit], 1, 1⟩ := by
    refine ⟨_, text, rfl, written, ?_⟩
    rw [disk, target]
    rfl
  refine ⟨requestFiles_bareSuffixes, by decide, shared, sceneOf_first,
    sceneOf_second rfl, ending, left_over, fun held => ?_⟩
  have same := Target.eq_of_holds rfl shared held left_over
  exact absurd (congrArg Scene.name same) (by decide)

end Command

end ArrayScene

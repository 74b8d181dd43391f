import ArrayScene.Store.Disk

/-!
# Folders that stay

A path is followed through folders only, so it leads to the same place as long as no folder is
lost. Making a folder with those it lies in adds folders where nothing was and changes nothing else.
-/
namespace ArrayScene.Disk

theorem walk_nil (d : Disk) (loc : Location) : d.walk loc [] = .ok loc := rfl

theorem walk_cons_ok {d : Disk} {loc target : Location} {part : String} {rest : List String} :
    d.walk loc (part :: rest) = .ok target ↔
      d.at? loc = some .folder ∧ d.walk (step loc part) rest = .ok target := by
  rw [walk]
  rcases d.at? loc with _ | _ | _ <;> simp

theorem walk_append_ok {d : Disk} {loc target : Location} {first rest : List String} :
    d.walk loc (first ++ rest) = .ok target ↔
      ∃ mid, d.walk loc first = .ok mid ∧ d.walk mid rest = .ok target := by
  induction first generalizing loc with
  | nil => simp [walk]
  | cons part first ih => simp only [List.cons_append, walk_cons_ok, ih, and_assoc, exists_and_left]

/-- A path one part longer leads on from the folder that the path leads to. -/
theorem locate_child_ok {d : Disk} {p : Path} {name : String} {loc : Location} :
    d.locate (p.child name) = .ok loc ↔
      ∃ folder, d.locate p = .ok folder ∧ d.at? folder = some .folder ∧ step folder name = loc := by
  simp only [locate, Path.child, walk_append_ok, walk_cons_ok, walk_nil, Except.ok.injEq]

theorem look_ok {d : Disk} {p : Path} {e : Entry} :
    d.look p = .ok e ↔ ∃ loc, d.locate p = .ok loc ∧ d.at? loc = some e := by
  rw [look]
  rcases d.locate p with _ | loc
  · simp [bind, Except.bind]
  · rcases found : d.at? loc with _ | _ <;> simp [bind, Except.bind, found]

theorem read_ok {d : Disk} {p : Path} {content : ByteArray} :
    d.read p = .ok content ↔
      ∃ loc, d.locate p = .ok loc ∧ d.at? loc = some (.file content) := by
  rw [← look_ok, read]
  rcases d.look p with _ | _ | _ <;> simp [bind, Except.bind]

/-- Paths start at the same places, and every folder is still there. -/
structure KeepsFolders (d after : Disk) : Prop where
  here : after.here = d.here
  folders : ∀ loc, d.at? loc = some .folder → after.at? loc = some .folder

theorem KeepsFolders.trans {d mid after : Disk} (first : d.KeepsFolders mid)
    (second : mid.KeepsFolders after) : d.KeepsFolders after :=
  ⟨second.here.trans first.here, fun loc folder => second.folders loc (first.folders loc folder)⟩

theorem walk_of_keepsFolders {d after : Disk} (keeps : d.KeepsFolders after)
    {loc target : Location} {parts : List String} (leads : d.walk loc parts = .ok target) :
    after.walk loc parts = .ok target := by
  induction parts generalizing loc with
  | nil => exact leads
  | cons part rest ih =>
    rw [walk_cons_ok] at leads ⊢
    exact ⟨keeps.folders loc leads.1, ih leads.2⟩

/-- A path leads to where it led. -/
theorem locate_of_keepsFolders {d after : Disk} (keeps : d.KeepsFolders after) {p : Path}
    {loc : Location} (leads : d.locate p = .ok loc) : after.locate p = .ok loc := by
  rw [locate, origin, keeps.here]
  exact walk_of_keepsFolders keeps leads

theorem look_folder_of_keepsFolders {d after : Disk} (keeps : d.KeepsFolders after) {p : Path}
    (folder : d.look p = .ok .folder) : after.look p = .ok .folder := by
  obtain ⟨loc, leads, found⟩ := look_ok.mp folder
  exact look_ok.mpr ⟨loc, locate_of_keepsFolders keeps leads, keeps.folders loc found⟩

theorem ne_nil_of_not_folder {d : Disk} {loc : Location} (free : d.at? loc ≠ some .folder) :
    loc ≠ [] := by
  rintro rfl
  exact free rfl

/-- Nothing that is put where no folder is takes a folder away. -/
theorem keepsFolders_put {d : Disk} {loc : Location} (e : Entry)
    (free : d.at? loc ≠ some .folder) : d.KeepsFolders (d.put loc e) where
  here := rfl
  folders other folder := by
    rw [at?_put_of_ne d e (by rintro rfl; exact free folder), folder]

/-- Folders were made where nothing was, and nothing else has changed. -/
structure GainsFolders (d after : Disk) : Prop where
  here : after.here = d.here
  entries : ∀ loc, after.at? loc = d.at? loc ∨ d.at? loc = none ∧ after.at? loc = some .folder

theorem GainsFolders.refl (d : Disk) : d.GainsFolders d := ⟨rfl, fun _ => .inl rfl⟩

theorem GainsFolders.trans {d mid after : Disk} (first : d.GainsFolders mid)
    (second : mid.GainsFolders after) : d.GainsFolders after where
  here := second.here.trans first.here
  entries loc := by
    rcases second.entries loc with same | ⟨free, made⟩
    · rw [same]
      exact first.entries loc
    · rcases first.entries loc with same | ⟨_, folder⟩
      · exact .inr ⟨same ▸ free, made⟩
      · rw [folder] at free
        cases free

theorem GainsFolders.keepsFolders {d after : Disk} (gains : d.GainsFolders after) :
    d.KeepsFolders after where
  here := gains.here
  folders loc folder := by
    rcases gains.entries loc with same | ⟨free, _⟩
    · rw [same, folder]
    · rw [free] at folder
      cases folder

/-- A file is where it was, with the content it had. -/
theorem GainsFolders.at?_of_file {d after : Disk} (gains : d.GainsFolders after) {loc : Location}
    {content : ByteArray} (file : d.at? loc = some (.file content)) :
    after.at? loc = some (.file content) := by
  rcases gains.entries loc with same | ⟨free, _⟩
  · rw [same, file]
  · rw [free] at file
    cases file

/-- What is a file afterwards was one before. -/
theorem GainsFolders.file_of_at? {d after : Disk} (gains : d.GainsFolders after) {loc : Location}
    {content : ByteArray} (file : after.at? loc = some (.file content)) :
    d.at? loc = some (.file content) := by
  rcases gains.entries loc with same | ⟨_, made⟩
  · rw [← same, file]
  · rw [made] at file
    cases file

theorem gainsFolders_put {d : Disk} {loc : Location} (free : d.at? loc = none) :
    d.GainsFolders (d.put loc .folder) where
  here := rfl
  entries other := by
    by_cases same : other = loc
    · subst same
      exact .inr ⟨free, at?_put_self d .folder (ne_nil_of_not_folder (by rw [free]; nofun))⟩
    · exact .inl (at?_put_of_ne d .folder same)

/-- A folder that is there is not made again. -/
theorem ensureFolder_of_folder {d : Disk} {p : Path} (folder : d.look p = .ok .folder) :
    d.ensureFolder p = .ok d := by
  obtain ⟨loc, leads, found⟩ := look_ok.mp folder
  have taken : d.makeFolder p = .error .exists := by
    simp [makeFolder, leads, found, bind, Except.bind]
  simp only [ensureFolder, taken, folder]

/-- A folder that has been made was there, or was put in the free place that its path leads to. -/
theorem ensureFolder_cases {d after : Disk} {p : Path} (made : d.ensureFolder p = .ok after) :
    d.look p = .ok .folder ∧ after = d ∨
      ∃ loc, d.locate p = .ok loc ∧ d.at? loc = none ∧ after = d.put loc .folder := by
  rw [ensureFolder] at made
  split at made
  · rename_i folder
    exact .inl ⟨folder, (Except.ok.inj made).symm⟩
  · rw [makeFolder] at made
    rcases leads : d.locate p with _ | loc
    · simp [leads, bind, Except.bind] at made
    · rcases found : d.at? loc with _ | _
      · simp only [leads, found, bind, Except.bind, Except.ok.injEq] at made
        exact .inr ⟨loc, rfl, found, made.symm⟩
      · simp [leads, found, bind, Except.bind] at made

/-- Where nothing is, a folder that is put there is what the path leads to. -/
theorem look_put_folder {d : Disk} {p : Path} {loc : Location} (leads : d.locate p = .ok loc)
    (free : d.at? loc = none) : (d.put loc .folder).look p = .ok .folder := by
  have gains := gainsFolders_put free
  have missing : d.at? loc ≠ some .folder := by simp [free]
  exact look_ok.mpr ⟨loc, locate_of_keepsFolders gains.keepsFolders leads,
    at?_put_self d .folder (ne_nil_of_not_folder missing)⟩

/-- A folder that has been made was missing or there before, and is there now. -/
theorem ensureFolder_ok {d after : Disk} {p : Path} (made : d.ensureFolder p = .ok after) :
    d.GainsFolders after ∧ after.look p = .ok .folder := by
  rcases ensureFolder_cases made with ⟨folder, rfl⟩ | ⟨loc, leads, free, rfl⟩
  · exact ⟨.refl _, folder⟩
  · exact ⟨gainsFolders_put free, look_put_folder leads free⟩

theorem ensureParts_of_folder {d : Disk} {root : PathRoot} {parts : List String}
    (folder : d.look ⟨root, parts.reverse⟩ = .ok .folder) :
    d.ensureParts root parts = (d, .ok ()) := by
  cases parts with
  | nil => simp only [ensureParts, ensureFolder_of_folder (p := ⟨root, []⟩) folder]
  | cons part above => simp only [ensureParts, ensureFolder_of_folder folder]

/-- Folders that are there are left alone. -/
theorem ensureFolders_of_folder {d : Disk} {p : Path} (folder : d.look p = .ok .folder) :
    d.ensureFolders p = (d, .ok ()) :=
  ensureParts_of_folder (by rwa [List.reverse_reverse])

/-- What making a folder with those it lies in can come to: the disk that is left, and whether it
worked. The parts of the path are in reverse. -/
inductive MakesFolders (root : PathRoot) (d : Disk) :
    List String → Disk → Except DiskFault Unit → Prop
  | refused (parts : List String) (fault : DiskFault) : MakesFolders root d parts d (.error fault)
  | made {parts : List String} {after : Disk}
      (ensured : d.ensureFolder ⟨root, parts.reverse⟩ = .ok after) :
      MakesFolders root d parts after (.ok ())
  | stopped (part : String) {above : List String} {after : Disk} {fault : DiskFault}
      (before : MakesFolders root d above after (.error fault)) :
      MakesFolders root d (part :: above) after (.error fault)
  | halfway (part : String) {above : List String} {mid : Disk} (fault : DiskFault)
      (before : MakesFolders root d above mid (.ok ())) :
      MakesFolders root d (part :: above) mid (.error fault)
  | further {part : String} {above : List String} {mid after : Disk}
      (before : MakesFolders root d above mid (.ok ()))
      (ensured : mid.ensureFolder ⟨root, (part :: above).reverse⟩ = .ok after) :
      MakesFolders root d (part :: above) after (.ok ())

theorem makesFolders_ensureParts (root : PathRoot) (d : Disk) (parts : List String) :
    MakesFolders root d parts (d.ensureParts root parts).1 (d.ensureParts root parts).2 := by
  induction parts with
  | nil =>
    rw [ensureParts]
    split
    · rename_i ensured
      exact .made ensured
    · exact .refused _ _
  | cons part above ih =>
    simp only [ensureParts]
    split
    · rename_i ensured
      exact .made ensured
    · -- the folder it lies in is missing, and is made first
      split
      · rename_i stopped
        rw [stopped] at ih
        exact .stopped part ih
      · rename_i reached
        rw [reached] at ih
        split
        · rename_i ensured
          exact .further ih ensured
        · exact .halfway part _ ih
    · exact .refused _ _

theorem makesFolders_ensureFolders (d : Disk) (p : Path) :
    MakesFolders p.root d p.parts.reverse (d.ensureFolders p).1 (d.ensureFolders p).2 :=
  makesFolders_ensureParts p.root d p.parts.reverse

/-- Whatever comes of it, making folders only adds folders. -/
theorem MakesFolders.gains {root : PathRoot} {d after : Disk} {parts : List String}
    {outcome : Except DiskFault Unit} (makes : MakesFolders root d parts after outcome) :
    d.GainsFolders after := by
  induction makes with
  | refused => exact .refl d
  | made ensured => exact (ensureFolder_ok ensured).1
  | stopped _ _ ih => exact ih
  | halfway _ _ _ ih => exact ih
  | further _ ensured ih => exact ih.trans (ensureFolder_ok ensured).1

theorem gainsFolders_ensureFolders (d : Disk) (p : Path) :
    d.GainsFolders (d.ensureFolders p).1 := (d.makesFolders_ensureFolders p).gains

/-- If it works the last folder is there. -/
theorem MakesFolders.look {root : PathRoot} {d after : Disk} {parts : List String}
    (makes : MakesFolders root d parts after (.ok ())) :
    after.look ⟨root, parts.reverse⟩ = .ok .folder := by
  cases makes with
  | made ensured => exact (ensureFolder_ok ensured).2
  | further _ ensured => exact (ensureFolder_ok ensured).2

theorem look_ensureFolders {d : Disk} {p : Path} (made : (d.ensureFolders p).2 = .ok ()) :
    (d.ensureFolders p).1.look p = .ok .folder := by
  have makes := d.makesFolders_ensureFolders p
  rw [made] at makes
  have folder := makes.look
  rwa [List.reverse_reverse] at folder

end ArrayScene.Disk

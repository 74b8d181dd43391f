import ArrayScene.Proofs.Arrays
import ArrayScene.Proofs.Settings.Variables
import ArrayScene.Proofs.Validation.Checks
import ArrayScene.Settings.Resolution

/-!
# Settings in layers

Each setting is decided on its own: by the variable for it, else by the settings file, else by its
default. What a file says about a setting with a variable is not looked at, so it cannot be wrong.
`fromSources_eq_ok_iff` says exactly when settings are found in the sources, and which.
-/
namespace ArrayScene

open Json (get? put)

/-! ### Fields laid over others -/

namespace Environment

/-- The fields of a value that may be none. -/
def fieldsIn : Option Json.Value → Json.Fields
  | some (.obj fields) => fields
  | _ => []

theorem overlayValue_none (v : Json.Value) : overlayValue none v = v := by
  cases v with
  | obj fields => unfold overlayValue; rfl
  | _ => rfl

theorem get?_overlay {key : String} {base fields : Json.Fields}
    (distinct : (fields.map Prod.fst).Nodup) :
    get? key (overlay base fields) =
      ((get? key fields).map (overlayValue (get? key base))).or (get? key base) := by
  induction fields generalizing base with
  | nil => rw [overlay, Json.get?_nil, Option.map_none, Option.none_or]
  | cons field rest ih =>
    obtain ⟨k, v⟩ := field
    obtain ⟨fresh, distinct⟩ := List.nodup_cons.mp distinct
    rw [overlay, ih distinct, Json.get?_cons]
    split
    · next same =>
      subst same
      rw [Json.get?_eq_none_iff.mpr fresh, Json.get?_put_self, Option.map_none, Option.none_or,
        Option.map_some, Option.some_or]
    · next other => rw [Json.get?_put_of_ne _ _ other]

theorem overlay_ne_nil {base fields : Json.Fields} (nonempty : base ≠ [] ∨ fields ≠ []) :
    overlay base fields ≠ [] := by
  induction fields generalizing base with
  | nil =>
    rw [overlay]
    exact nonempty.resolve_right (absurd rfl)
  | cons field rest ih =>
    obtain ⟨k, v⟩ := field
    rw [overlay]
    exact ih (.inl (Json.put_ne_nil _ _ _))

/-- Fields laid over a value are fields, and each key has what is laid over what it had. -/
theorem exists_overlaid (old : Option Json.Value) {fields : Json.Fields}
    (distinct : (fields.map Prod.fst).Nodup) :
    ∃ merged, overlayValue old (.obj fields) = .obj merged ∧ ∀ key,
      get? key merged = ((get? key fields).map (overlayValue (get? key (fieldsIn old)))).or
        (get? key (fieldsIn old)) := by
  unfold overlayValue
  split
  · exact ⟨_, rfl, fun key => get?_overlay distinct⟩
  · next notFields =>
    have none : fieldsIn old = [] := by
      unfold fieldsIn
      split
      · exact absurd rfl (notFields _)
      · rfl
    refine ⟨fields, rfl, fun key => ?_⟩
    rw [none, Json.get?_nil, Option.or_none]
    cases get? key fields with
    | none => rfl
    | some v => rw [Option.map_some, overlayValue_none]

end Environment

/-! ### Values that no setting takes -/

theorem Text.exists_trim_eq {p : Char → Bool} {c : Char} (solid : p c = false) (cs : List Char) :
    ∃ rest, Text.trim p (c :: cs) = c :: rest := by
  unfold Text.trim
  rw [List.dropWhile_cons_of_neg (by simp [solid]), List.reverse_cons, List.dropWhile_append]
  split
  · exact ⟨[], by rw [List.dropWhile_cons_of_neg (by simp [solid])]; rfl⟩
  · exact ⟨(cs.reverse.dropWhile p).reverse, by rw [List.reverse_append]; rfl⟩

namespace Settings

open Validation

/-- A check that no object with fields passes. -/
def RefusesFields {α : Type} (check : List String → Json.Value → Checked α) : Prop :=
  ∀ place fields a, fields ≠ [] → check place (.obj fields) ≠ .ok a

theorem exists_wordOf_eq (void : String) {fields : Json.Fields} (nonempty : fields ≠ []) :
    ∃ rest, wordOf void (.obj fields) = '{' :: rest := by
  obtain ⟨⟨k, v⟩, fields, rfl⟩ := List.exists_cons_of_ne_nil nonempty
  unfold wordOf
  rw [if_neg (by simp [Json.isVoid]), Json.plain, String.toList_ofList, Json.inner]
  · exact Text.exists_trim_eq (by decide) _
  · nofun

theorem readPath_refusesFields : RefusesFields readPath :=
  nofun

theorem positiveInteger_refusesFields : RefusesFields positiveInteger :=
  nofun

theorem ofList_ne {c : Char} {word : String} (first : word.toList.head? ≠ some c)
    (rest : List Char) : String.ofList (c :: rest) ≠ word := by
  rintro rfl
  rw [String.toList_ofList] at first
  exact first rfl

theorem readFormat_refusesFields : RefusesFields readFormat := by
  intro place fields a nonempty read
  obtain ⟨rest, word⟩ := exists_wordOf_eq "scene" nonempty
  obtain ⟨rest', lowered⟩ : ∃ rest', Text.lower (String.ofList ('{' :: rest)) =
      String.ofList ('{' :: rest') := by
    rw [Text.lower, String.toList_ofList]
    exact ⟨_, rfl⟩
  unfold readFormat Format.ofName? at read
  rw [word, lowered, if_neg (ofList_ne (by decide) rest'), if_neg (ofList_ne (by decide) rest')]
    at read
  cases read

theorem readLogLevel_refusesFields : RefusesFields readLogLevel := by
  intro place fields a nonempty read
  obtain ⟨rest, word⟩ := exists_wordOf_eq "WARNING" nonempty
  have unknown : LogLevel.ofName? (String.ofList (('{' :: rest).map levelLetter)) = none := by
    apply List.find?_eq_none.mpr
    intro level _
    have first : level.name.toList.head? ≠ some '{' := by cases level <;> decide
    rw [decide_eq_true_eq]
    exact (ofList_ne first _).symm
  unfold readLogLevel at read
  rw [word, unknown] at read
  cases read

/-! ### One setting -/

/-- One setting: the text of the variable for it is checked, else the value that the file gives, and
else it has its default. -/
def Decided {α : Type} (env : Environment) (file : Json.Fields) (key : String) (default : α)
    (check : List String → Json.Value → Checked α) (a : α) : Prop :=
  match env.setting? key with
  | some text => check ["render", key] (.str text) = .ok a
  | none =>
    match get? key file with
    | some v => check ["render", key] v = .ok a
    | none => a = default

/-- Each of the settings is decided on its own. -/
structure Layered (env : Environment) (file : Json.Fields) (s : Settings) : Prop where
  inputDir : Decided env file "input_dir" default.inputDir readPath s.inputDir
  outputDir : Decided env file "output_dir" default.outputDir readPath s.outputDir
  format : Decided env file "output_format" default.format readFormat s.format
  unitSize : Decided env file "unit_size" default.unitSize positiveInteger s.unitSize
  logLevel : Decided env file "log_level" default.logLevel readLogLevel s.logLevel

/-- What a file says about a setting only matters where no variable is for it. -/
theorem Decided.congr {α : Type} {env : Environment} {file file' : Json.Fields} {key : String}
    {default a : α} {check : List String → Json.Value → Checked α}
    (same : env.setting? key = none → get? key file' = get? key file)
    (decided : Decided env file key default check a) : Decided env file' key default check a := by
  unfold Decided at decided ⊢
  cases own : env.setting? key with
  | some text =>
    rw [own] at decided
    exact decided
  | none =>
    rw [own] at decided
    rw [same own]
    exact decided

/-- Fields in which what the variables give lies over what a file gives. -/
def Merges (env : Environment) (file merged : Json.Fields) : Prop :=
  ∀ key ∈ keys, get? key merged =
    ((get? key (Environment.foldNames keys (Environment.settingFields env.folded))).map
      (Environment.overlayValue (get? key file))).or (get? key file)

section

variable {env : Environment} {file merged : Json.Fields}

/-- A setting in merged fields passes its check as it is decided, unless it was given fields. -/
theorem optional_merged_iff {α : Type} {key : String} {default a : α}
    {check : List String → Json.Value → Checked α} (merges : Merges env file merged)
    (known : key ∈ keys) (refuses : RefusesFields check) :
    optional ["render"] key merged default check = .ok a ↔
      (env.setting? key = none → ¬env.Nested key) ∧ Decided env file key default check a := by
  have lookup := merges key known
  have leaves := env.leaves_folded known
  generalize get? key (Environment.foldNames keys (Environment.settingFields env.folded)) = given
    at lookup leaves
  rw [optional_eq_ok_iff, lookup]
  unfold Decided
  cases leaves with
  | text own =>
    rw [env.get?_variableFor_folded] at own
    obtain ⟨text, found, rfl⟩ := Option.map_eq_some_iff.mp own
    simp [found, Environment.overlayValue]
  | @fields inner absent deeper nonempty =>
    rw [env.get?_variableFor_folded, Option.map_eq_none_iff] at absent
    have nested := (env.goesInside_folded_iff key).mp deeper
    obtain ⟨fields, laid, nonempty⟩ :
        ∃ fields, Environment.overlayValue (get? key file) (.obj inner) = .obj fields ∧
          fields ≠ [] := by
      unfold Environment.overlayValue
      split
      · exact ⟨_, rfl, Environment.overlay_ne_nil (.inr nonempty)⟩
      · exact ⟨_, rfl, nonempty⟩
    simp [absent, nested, laid, refuses _ fields a nonempty]
  | nothing absent shallow =>
    rw [env.get?_variableFor_folded, Option.map_eq_none_iff] at absent
    have notNested : ¬env.Nested key := fun nested => by
      obtain ⟨p, member, inside⟩ := (env.goesInside_folded_iff key).mpr nested
      exact shallow p member inside
    cases get? key file <;> simp [absent, notNested]

theorem read_obj_eq_ok_iff {place : List String} {fields : Json.Fields} {s : Settings} :
    read place (.obj fields) = .ok s ↔
      optional place "input_dir" fields default.inputDir readPath = .ok s.inputDir ∧
      optional place "output_dir" fields default.outputDir readPath = .ok s.outputDir ∧
      optional place "output_format" fields default.format readFormat = .ok s.format ∧
      optional place "unit_size" fields default.unitSize positiveInteger = .ok s.unitSize ∧
      optional place "log_level" fields default.logLevel readLogLevel = .ok s.logLevel := by
  unfold read
  constructor
  · intro passed
    obtain ⟨_, parts, rfl⟩ := exists_of_map_eq_ok passed
    simpa only [both_eq_ok_iff] using parts
  · rintro ⟨inputDir, outputDir, format, unitSize, logLevel⟩
    simp only [inputDir, outputDir, format, unitSize, logLevel, both, Except.map]

/-- Merged fields are read as the settings that are decided one by one. -/
theorem read_merged_iff (merges : Merges env file merged) {s : Settings} :
    read ["render"] (.obj merged) = .ok s ↔
      (∀ key ∈ keys, env.setting? key = none → ¬env.Nested key) ∧ Layered env file s := by
  rw [read_obj_eq_ok_iff,
    optional_merged_iff merges (by simp [keys]) readPath_refusesFields,
    optional_merged_iff merges (by simp [keys]) readPath_refusesFields,
    optional_merged_iff merges (by simp [keys]) readFormat_refusesFields,
    optional_merged_iff merges (by simp [keys]) positiveInteger_refusesFields,
    optional_merged_iff merges (by simp [keys]) readLogLevel_refusesFields]
  constructor
  · rintro ⟨⟨n₁, inputDir⟩, ⟨n₂, outputDir⟩, ⟨n₃, format⟩, ⟨n₄, unitSize⟩, n₅, logLevel⟩
    refine ⟨?_, inputDir, outputDir, format, unitSize, logLevel⟩
    simp only [keys, List.forall_mem_cons]
    exact ⟨n₁, n₂, n₃, n₄, n₅, List.forall_mem_nil _⟩
  · rintro ⟨flat, decided⟩
    simp only [keys, List.forall_mem_cons] at flat
    obtain ⟨n₁, n₂, n₃, n₄, n₅, _⟩ := flat
    exact ⟨⟨n₁, decided.inputDir⟩, ⟨n₂, decided.outputDir⟩, ⟨n₃, decided.format⟩,
      ⟨n₄, decided.unitSize⟩, n₅, decided.logLevel⟩

end

/-! ### All sources -/

theorem readConfiguration_eq_ok_iff {fields : Json.Fields} {s : Settings} :
    readConfiguration fields = .ok s ↔
      optional [] "render" fields default read = .ok s ∧ ∀ f ∈ fields, f.1 = "render" := by
  have extra : (fields.filter fun f => f.1 ≠ "render").isEmpty = true ↔
      ∀ f ∈ fields, f.1 = "render" := by
    simp [List.isEmpty_iff, List.filter_eq_nil_iff]
  unfold readConfiguration
  rw [← extra]
  constructor
  · intro passed
    obtain ⟨⟨found, none⟩, parts, rfl⟩ := exists_of_map_eq_ok passed
    obtain ⟨render, others⟩ := both_eq_ok_iff.mp parts
    refine ⟨render, ?_⟩
    split at others
    · assumption
    · cases others
  · rintro ⟨render, none⟩
    simp only [render, none, if_true, both, Except.map]

theorem read_nil_eq_ok_iff {place : List String} {s : Settings} :
    read place (.obj []) = .ok s ↔ s = default := by
  rw [read_obj_eq_ok_iff]
  obtain ⟨inputDir, outputDir, format, unitSize, logLevel⟩ := s
  simp [Validation.optional, default, eq_comm]

/-- The fields of a file alone, where no variable gives a setting. -/
theorem merges_of_not_givesFields {env : Environment} (nothing : ¬env.GivesFields)
    (file : Json.Fields) : Merges env file file := by
  intro key _
  rw [env.settingFields_folded_eq_nil_iff.mpr nothing]
  rfl

variable {env : Environment} {file : Option Path} {d : Disk} {yaml : Json.Fields}

theorem fromSources_eq_ok_iff_read {s : Settings} {own : Option Json.Value}
    (given : fieldsOf d file = .ok yaml) (said : env.settings? keys = .ok own) :
    fromSources env file d = .ok s ↔
      readConfiguration (own.elim yaml fun v => Environment.overlay yaml [("render", v)]) =
        .ok s := by
  unfold fromSources
  rw [given, said]
  cases own <;> simp only [bind, Except.bind, Option.elim] <;>
    cases readConfiguration _ <;> simp [report]

/-- When settings are found in the sources, and which. -/
theorem fromSources_eq_ok_iff {s : Settings}
    (noObject : ∀ p ∈ env, Text.lower p.1 ≠ "lift_scene_render")
    (given : fieldsOf d file = .ok yaml) :
    fromSources env file d = .ok s ↔
      (∀ f ∈ yaml, f.1 = "render") ∧
      (∀ v, get? "render" yaml = some v → (∃ fields, v = .obj fields) ∨ env.GivesFields) ∧
      (∀ key ∈ keys, env.setting? key = none → ¬env.Nested key) ∧
      Layered env (Environment.fieldsIn (get? "render" yaml)) s := by
  have said := env.settings?_of_no_object noObject keys
  by_cases gives : env.GivesFields
  · have some := mt env.settingFields_folded_eq_nil_iff.mp (not_not.mpr gives)
    have distinct : ((Environment.foldNames keys (Environment.settingFields env.folded)).map
      Prod.fst).Nodup := Json.nodup_ofAssignments _
    obtain ⟨merged, laid, lookup⟩ := Environment.exists_overlaid (get? "render" yaml) distinct
    rw [if_neg some] at said
    rw [fromSources_eq_ok_iff_read given said, Option.elim_some, Environment.overlay,
      Environment.overlay, laid, readConfiguration_eq_ok_iff, Json.forall_mem_put_iff,
      Validation.optional, Json.get?_put_self]
    change read ["render"] (.obj merged) = .ok s ∧ _ ↔ _
    rw [read_merged_iff fun key _ => lookup key]
    constructor
    · rintro ⟨⟨flat, layered⟩, only⟩
      exact ⟨only, fun _ _ => .inr gives, flat, layered⟩
    · rintro ⟨only, _, flat, layered⟩
      exact ⟨⟨flat, layered⟩, only⟩
  · have none := env.settingFields_folded_eq_nil_iff.mpr gives
    rw [if_pos none] at said
    rw [fromSources_eq_ok_iff_read given said, Option.elim_none, readConfiguration_eq_ok_iff,
      and_comm, optional_eq_ok_iff]
    apply and_congr_right
    intro _
    have alone (fields : Json.Fields) := read_merged_iff (merges_of_not_givesFields gives fields)
      (s := s)
    cases found : get? "render" yaml with
    | none =>
      change _ ↔ _ ∧ _ ∧ Layered env [] s
      rw [← alone, read_nil_eq_ok_iff]
      simp
    | some v =>
      cases v with
      | obj fields => simp [Environment.fieldsIn, ← alone]
      | _ => simp [read, gives, refuse]

end Settings

end ArrayScene

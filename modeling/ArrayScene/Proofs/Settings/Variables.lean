import Mathlib.Data.List.Induction
import ArrayScene.Proofs.Json.Fields
import ArrayScene.Proofs.Text.LowerCase
import ArrayScene.Settings.Basic
import ArrayScene.Settings.Environment

/-!
# What the variables say about one setting

The environment gives a setting the text of the variable that is named for it, whatever the case of
the name. Where there is none, variables that go deeper give it fields, and otherwise it is left to
others. The order of the variables only matters among those whose names differ in case alone.
-/
namespace ArrayScene.Environment

open Json (get? put)

/-- The lower-case name of the variable for a setting. -/
def variableFor (key : String) : String := "lift_scene_render__" ++ key

/-- A name goes deeper than a setting. -/
def GoesInside (key name : String) : Prop :=
  (variableFor key).toList ++ ['_', '_'] <+: name.toList

/-- The text that the environment gives a setting: that of the last variable for it. -/
def setting? (env : Environment) (key : String) : Option String :=
  (env.reverse.find? fun p => Text.lower p.1 = variableFor key).map Prod.snd

/-- Some variable gives a setting something, whether there is a setting of that name or not. -/
def GivesFields (env : Environment) : Prop :=
  ∃ p ∈ env, "lift_scene_render__".toList <+: (Text.lower p.1).toList

/-- Some variable goes deeper than a setting. -/
def Nested (env : Environment) (key : String) : Prop :=
  ∃ p ∈ env, GoesInside key (Text.lower p.1)

/-! ### The levels of a name -/

theorem levels_ne_nil (cs : List Char) : levels cs ≠ [] := by
  unfold levels
  split
  · nofun
  · nofun
  · split <;> nofun

/-- The first level is the whole text, or two underscores end it. -/
theorem levels_eq_cons {cs level : List Char} {more : List (List Char)}
    (split : levels cs = level :: more) :
    (more = [] ∧ cs = level) ∨ (more ≠ [] ∧ ∃ rest, cs = level ++ '_' :: '_' :: rest) := by
  fun_induction levels cs generalizing level more with
  | case1 => cases split; exact .inl ⟨rfl, rfl⟩
  | case2 rest ih => cases split; exact .inr ⟨levels_ne_nil rest, rest, rfl⟩
  | case3 c rest _ none ih => exact absurd none (levels_ne_nil rest)
  | case4 c rest _ head tail found ih =>
    cases split
    rcases ih found with ⟨last, whole⟩ | ⟨more, behind, ends⟩
    · exact .inl ⟨last, congrArg (c :: ·) whole⟩
    · exact .inr ⟨more, behind, congrArg (c :: ·) ends⟩

/-- A key that is one level, also where two underscores follow it. -/
def IsLevel (key : String) : Prop :=
  levels key.toList = [key.toList] ∧
    ∀ rest, levels (key.toList ++ '_' :: '_' :: rest) = key.toList :: levels rest

theorem isLevel_of_mem_keys {key : String} (known : key ∈ Settings.keys) : IsLevel key := by
  simp only [Settings.keys, List.mem_cons, List.not_mem_nil, or_false] at known
  rcases known with rfl | rfl | rfl | rfl | rfl <;> exact ⟨rfl, fun _ => rfl⟩

theorem isPlain_of_mem_keys {key : String} (known : key ∈ Settings.keys) :
    ∀ c ∈ key.toList, Text.IsPlain c := by
  have plain : Settings.keys.all fun key => key.toList.all fun c => Text.IsPlain c := by decide
  intro c member
  exact of_decide_eq_true (List.all_eq_true.mp (List.all_eq_true.mp plain key known) c member)

/-! ### One variable -/

/-- The keys that the name of a variable leads through, if it is one for settings. -/
def path? (name : String) : Option (List String) :=
  let mark := objectName ++ ['_', '_']
  if mark.isPrefixOf name.toList then
    some ((levels (name.toList.drop mark.length)).map String.ofList)
  else none

theorem settingFields_append (named : Json.Fields) (p : String × Json.Value) :
    settingFields (named ++ [p]) =
      match path? p.1 with
      | some path => putDeep p.2 path (settingFields named)
      | none => settingFields named := by
  simp only [settingFields, List.foldl_append, List.foldl_cons, List.foldl_nil, path?]
  split <;> rfl

theorem path?_eq_cons_iff {name key : String} {more : List String} :
    path? name = some (key :: more) ↔
      ∃ cs levels', name.toList = objectName ++ ['_', '_'] ++ cs ∧
        levels cs = key.toList :: levels' ∧ levels'.map String.ofList = more := by
  unfold path?
  simp only
  constructor
  · intro found
    split at found
    · next marked =>
      obtain ⟨cs, text⟩ := List.isPrefixOf_iff_prefix.mp marked
      rw [← text, List.drop_left, Option.some.injEq] at found
      obtain ⟨level, levels', split, same, others⟩ := List.map_eq_cons_iff.mp found
      refine ⟨cs, levels', text.symm, ?_, others⟩
      rw [split, ← same, String.toList_ofList]
    · cases found
  · rintro ⟨cs, levels', text, split, others⟩
    rw [if_pos (List.isPrefixOf_iff_prefix.mpr ⟨cs, text.symm⟩), text, List.drop_left, split,
      List.map_cons, String.ofList_toList, others]

theorem toList_mark : "lift_scene_render__".toList = objectName ++ ['_', '_'] := by
  decide +kernel

theorem toList_variableFor (key : String) :
    (variableFor key).toList = objectName ++ ['_', '_'] ++ key.toList := by
  unfold variableFor
  rw [String.toList_append]
  exact congrArg (· ++ key.toList) toList_mark

theorem path?_eq_none_iff {name : String} :
    path? name = none ↔ ¬"lift_scene_render__".toList <+: name.toList := by
  unfold path?
  rw [toList_mark, ← List.isPrefixOf_iff_prefix]
  simp only
  split
  · next marked => exact iff_of_false nofun (not_not.mpr marked)
  · next unmarked => exact iff_of_true rfl unmarked

theorem path?_ne_nil (name : String) : path? name ≠ some [] := by
  unfold path?
  simp only
  split
  · rw [ne_eq, Option.some.injEq, List.map_eq_nil_iff]
    exact levels_ne_nil _
  · nofun

theorem path?_eq_singleton_iff {name key : String} (level : IsLevel key) :
    path? name = some [key] ↔ name = variableFor key := by
  rw [path?_eq_cons_iff, ← String.toList_inj, toList_variableFor]
  constructor
  · rintro ⟨cs, levels', text, split, none⟩
    rcases levels_eq_cons split with ⟨_, whole⟩ | ⟨more, _⟩
    · rw [text, whole]
    · exact absurd (List.map_eq_nil_iff.mp none) more
  · intro same
    exact ⟨key.toList, [], same, level.1, rfl⟩

theorem exists_path?_eq_iff {name key : String} (level : IsLevel key) :
    (∃ k more, path? name = some (key :: k :: more)) ↔ GoesInside key name := by
  unfold GoesInside
  rw [toList_variableFor]
  constructor
  · rintro ⟨k, more, found⟩
    obtain ⟨cs, levels', text, split, others⟩ := path?_eq_cons_iff.mp found
    rcases levels_eq_cons split with ⟨none, _⟩ | ⟨_, rest, ends⟩
    · rw [none] at others
      cases others
    · exact ⟨rest, by rw [text, ends]; simp⟩
  · rintro ⟨rest, text⟩
    have split := level.2 rest
    obtain ⟨l, ls, deeper⟩ := List.exists_cons_of_ne_nil (levels_ne_nil rest)
    refine ⟨String.ofList l, ls.map String.ofList, path?_eq_cons_iff.mpr
      ⟨key.toList ++ '_' :: '_' :: rest, l :: ls, ?_, by rw [split, deeper], rfl⟩⟩
    rw [← text]
    simp

/-! ### Fields put one within another -/

section

variable {v : Json.Value} {key k : String} {more path : List String} {fields : Json.Fields}

theorem putDeep_ne_nil (nonempty : path ≠ []) : putDeep v path fields ≠ [] := by
  unfold putDeep
  split
  · exact absurd rfl nonempty
  · exact Json.put_ne_nil _ _ _
  · split
    · exact Json.put_ne_nil _ _ _
    · exact Json.put_ne_nil _ _ _
    · next found =>
      rintro rfl
      cases found

theorem get?_putDeep_of_ne (other : key ≠ k) :
    get? key (putDeep v (k :: more) fields) = get? key fields := by
  unfold putDeep
  split
  · rfl
  · next same => cases same; exact Json.get?_put_of_ne _ _ other
  · next same =>
    cases same
    split
    · exact Json.get?_put_of_ne _ _ other
    · exact Json.get?_put_of_ne _ _ other
    · rfl

theorem mem_keys_putDeep {key : String} (member : key ∈ (putDeep v path fields).map Prod.fst) :
    path.head? = some key ∨ key ∈ fields.map Prod.fst := by
  unfold putDeep at member
  split at member
  · exact .inr member
  · exact (Json.mem_keys_put.mp member).imp_left fun same => congrArg some same.symm
  · split at member
    · exact (Json.mem_keys_put.mp member).imp_left fun same => congrArg some same.symm
    · exact (Json.mem_keys_put.mp member).imp_left fun same => congrArg some same.symm
    · exact .inr member

theorem nodup_putDeep (distinct : (fields.map Prod.fst).Nodup) :
    ((putDeep v path fields).map Prod.fst).Nodup := by
  unfold putDeep
  split
  · exact distinct
  · exact Json.nodup_put distinct _ _
  · split
    · exact Json.nodup_put distinct _ _
    · exact Json.nodup_put distinct _ _
    · exact distinct

end

/-! ### All variables -/

theorem nodup_settingFields (named : Json.Fields) :
    ((settingFields named).map Prod.fst).Nodup := by
  induction named using List.reverseRecOn with
  | nil => exact List.nodup_nil
  | append_singleton named p ih =>
    rw [settingFields_append]
    split
    · exact nodup_putDeep ih
    · exact ih

theorem settingFields_eq_nil_iff {named : Json.Fields} :
    settingFields named = [] ↔ ∀ p ∈ named, path? p.1 = none := by
  induction named using List.reverseRecOn with
  | nil => exact iff_of_true rfl (List.forall_mem_nil _)
  | append_singleton named p ih =>
    rw [settingFields_append, List.forall_mem_append, List.forall_mem_singleton, ← ih]
    cases found : path? p.1 with
    | none => exact (and_iff_left rfl).symm
    | some path =>
      have nonempty : path ≠ [] := fun none => path?_ne_nil p.1 (none ▸ found)
      exact iff_of_false (putDeep_ne_nil nonempty) nofun

/-- The keys of single settings are parts of the names of variables. -/
theorem exists_of_mem_key {named : Json.Fields} {key : String} {c : Char}
    (member : key ∈ (settingFields named).map Prod.fst) (inside : c ∈ key.toList) :
    ∃ p ∈ named, c ∈ p.1.toList := by
  induction named using List.reverseRecOn with
  | nil => cases member
  | append_singleton named p ih =>
    have earlier (member : key ∈ (settingFields named).map Prod.fst) :
        ∃ q ∈ named ++ [p], c ∈ q.1.toList := by
      obtain ⟨q, belongs, within⟩ := ih member
      exact ⟨q, List.mem_append_left _ belongs, within⟩
    rw [settingFields_append] at member
    split at member
    · next path found =>
      rcases mem_keys_putDeep member with first | member
      · obtain ⟨more, rfl⟩ := List.head?_eq_some_iff.mp first
        obtain ⟨cs, _, text, split, _⟩ := path?_eq_cons_iff.mp found
        refine ⟨p, List.mem_append_right _ (List.mem_singleton_self p), ?_⟩
        rw [text]
        apply List.mem_append_right
        rcases levels_eq_cons split with ⟨_, rfl⟩ | ⟨_, _, rfl⟩
        · exact inside
        · exact List.mem_append_left _ inside
      · exact earlier member
    · exact earlier member

/-- What the variables leave under a key: the text of the variable for it, else fields from deeper
variables, else nothing. -/
inductive Leaves (named : Json.Fields) (key : String) : Option Json.Value → Prop
  | text {v : Json.Value} (own : get? (variableFor key) named = some v) : Leaves named key (some v)
  | fields {inner : Json.Fields} (absent : get? (variableFor key) named = none)
      (deeper : ∃ p ∈ named, GoesInside key p.1) (nonempty : inner ≠ []) :
      Leaves named key (some (.obj inner))
  | nothing (absent : get? (variableFor key) named = none)
      (shallow : ∀ p ∈ named, ¬GoesInside key p.1) : Leaves named key none

section

variable {named : Json.Fields} {key name : String} {v : Json.Value} {left : Option Json.Value}

/-- A variable that leads elsewhere changes nothing. -/
theorem Leaves.append (level : IsLevel key) (leaves : Leaves named key left)
    (elsewhere : ∀ more, path? name ≠ some (key :: more)) :
    Leaves (named ++ [(name, v)]) key left := by
  have notOwn : variableFor key ≠ name := fun same =>
    elsewhere [] ((path?_eq_singleton_iff level).mpr same.symm)
  have notInside : ¬GoesInside key name := by
    intro inside
    obtain ⟨k, more, found⟩ := (exists_path?_eq_iff level).mpr inside
    exact elsewhere _ found
  have same : get? (variableFor key) (named ++ [(name, v)]) = get? (variableFor key) named := by
    rw [Json.get?_insert_of_ne notOwn, List.append_nil]
  cases leaves with
  | text own => exact .text (same.trans own)
  | fields absent deeper nonempty =>
    obtain ⟨p, member, inside⟩ := deeper
    exact .fields (same.trans absent) ⟨p, List.mem_append_left _ member, inside⟩ nonempty
  | nothing absent shallow =>
    refine .nothing (same.trans absent) (List.forall_mem_append.mpr ⟨shallow, ?_⟩)
    exact List.forall_mem_singleton.mpr notInside

/-- A deeper variable goes into the fields of a key, and nowhere if the key has a text. -/
theorem Leaves.append_inside (leaves : Leaves named key (get? key (settingFields named)))
    (texts : ∀ p ∈ named, ∃ text, p.2 = .str text) (notOwn : variableFor key ≠ name)
    (inside : GoesInside key name) {k : String} {more : List String} :
    Leaves (named ++ [(name, v)]) key
      (get? key (putDeep v (key :: k :: more) (settingFields named))) := by
  have same : get? (variableFor key) (named ++ [(name, v)]) = get? (variableFor key) named := by
    rw [Json.get?_insert_of_ne notOwn, List.append_nil]
  have deeper : ∃ p ∈ named ++ [(name, v)], GoesInside key p.1 :=
    ⟨_, List.mem_append_right _ (List.mem_singleton_self _), inside⟩
  generalize settingFields named = fields at leaves
  unfold putDeep
  cases leaves' : get? key fields with
  | none =>
    rw [leaves'] at leaves
    cases leaves with
    | nothing absent _ =>
      simp only [Json.get?_put_self]
      exact .fields (same.trans absent) deeper (putDeep_ne_nil (List.cons_ne_nil _ _))
  | some w =>
    rw [leaves'] at leaves
    cases leaves with
    | text own =>
      obtain ⟨text, rfl⟩ := texts _ (Json.mem_of_get? own)
      simp only [leaves']
      exact .text (same.trans own)
    | fields absent _ _ =>
      simp only [Json.get?_put_self]
      exact .fields (same.trans absent) deeper (putDeep_ne_nil (List.cons_ne_nil _ _))

end

theorem leaves_settingFields {named : Json.Fields} {key : String} (level : IsLevel key)
    (texts : ∀ p ∈ named, ∃ text, p.2 = .str text) (distinct : (named.map Prod.fst).Nodup) :
    Leaves named key (get? key (settingFields named)) := by
  induction named using List.reverseRecOn with
  | nil => exact .nothing rfl (List.forall_mem_nil _)
  | append_singleton named p ih =>
    obtain ⟨name, v⟩ := p
    rw [List.map_append, List.nodup_append] at distinct
    obtain ⟨earlier, _, fresh⟩ := distinct
    have texts := (List.forall_mem_append.mp texts).1
    have leaves := ih texts earlier
    have own : path? name = some [key] ↔ name = variableFor key := path?_eq_singleton_iff level
    have inside : (∃ k more, path? name = some (key :: k :: more)) ↔ GoesInside key name :=
      exists_path?_eq_iff level
    rw [settingFields_append]
    cases found : path? name with
    | none => exact leaves.append level (by rw [found]; nofun)
    | some path =>
      cases path with
      | nil => exact leaves.append level (by rw [found]; nofun)
      | cons k more =>
        by_cases same : key = k
        · subst same
          rw [found] at own inside
          cases more with
          | nil =>
            have absent : get? name named = none := Json.get?_eq_none_iff.mpr fun member =>
              fresh _ member _ (List.mem_singleton_self _) rfl
            have text : get? name (named ++ [(name, v)]) = some v := by
              rw [Json.get?_append, absent, Json.get?_cons, if_pos rfl, Option.none_or]
            change Leaves _ key (get? key (put key v (settingFields named)))
            rw [Json.get?_put_self]
            exact .text (own.mp rfl ▸ text)
          | cons k more =>
            exact leaves.append_inside texts (fun same => nomatch own.mpr same.symm)
              (inside.mp ⟨k, more, rfl⟩)
        · rw [get?_putDeep_of_ne same]
          apply leaves.append level
          intro more equal
          cases found.symm.trans equal
          exact same rfl

/-- Keys in lower case are plain names already, or none of them. -/
theorem get?_foldNames {names : List String} {fields : Json.Fields} (key : String)
    (plain : ∀ name ∈ names, ∀ c ∈ name.toList, Text.IsPlain c)
    (small : ∀ p ∈ fields, ∀ c ∈ p.1.toList, ¬Text.IsCapital c)
    (distinct : (fields.map Prod.fst).Nodup) :
    get? key (foldNames names fields) = get? key fields := by
  rw [foldNames, Json.get?_ofAssignments, ← List.map_reverse]
  refine (Json.get?_map_of_same fun p member => ?_).trans
    (Json.get?_perm distinct (List.reverse_perm fields).symm key)
  cases found : names.find? fun name => name = Text.lower p.1 with
  | none => exact ⟨Iff.rfl, rfl⟩
  | some name =>
    have lowered : name = Text.lower p.1 := by simpa using List.find?_some found
    have same := (Text.lower_eq_iff (small p (List.mem_reverse.mp member))
      (plain name (List.mem_of_find?_eq_some found))).mp lowered.symm
    exact ⟨by rw [same], rfl⟩

/-! ### The environment -/

variable (env : Environment)

theorem get?_folded (name : String) : get? name env.folded =
    (env.reverse.find? fun p => Text.lower p.1 = name).map fun p => .str p.2 := by
  rw [folded, Json.get?_ofAssignments, ← List.map_reverse]
  induction env.reverse with
  | nil => rfl
  | cons p rest ih =>
    rw [List.map_cons, Json.get?_cons, ih, List.find?_cons]
    by_cases same : Text.lower p.1 = name
    · simp [same]
    · simp [same, Ne.symm same]

theorem get?_variableFor_folded (key : String) :
    get? (variableFor key) env.folded = (env.setting? key).map .str := by
  rw [get?_folded, setting?, Option.map_map]
  rfl

theorem texts_folded : ∀ p ∈ env.folded, ∃ text, p.2 = .str text := by
  rintro ⟨name, v⟩ member
  have found := (Json.get?_eq_some_iff_mem (Json.nodup_ofAssignments _)).mpr member
  obtain ⟨p, _, same⟩ := Option.map_eq_some_iff.mp ((env.get?_folded name).symm.trans found)
  exact ⟨p.2, same.symm⟩

theorem mem_keys_folded {name : String} :
    name ∈ env.folded.map Prod.fst ↔ ∃ p ∈ env, Text.lower p.1 = name := by
  rw [folded, Json.mem_keys_ofAssignments]
  simp

theorem goesInside_folded_iff (key : String) :
    (∃ p ∈ env.folded, GoesInside key p.1) ↔ env.Nested key := by
  constructor
  · rintro ⟨p, member, inside⟩
    obtain ⟨q, given, same⟩ := env.mem_keys_folded.mp (List.mem_map_of_mem member)
    exact ⟨q, given, same ▸ inside⟩
  · rintro ⟨q, given, inside⟩
    obtain ⟨p, member, same⟩ := List.mem_map.mp (env.mem_keys_folded.mpr ⟨q, given, rfl⟩)
    exact ⟨p, member, same ▸ inside⟩

theorem settingFields_folded_eq_nil_iff :
    settingFields env.folded = [] ↔ ¬env.GivesFields := by
  rw [settingFields_eq_nil_iff]
  unfold GivesFields
  constructor
  · rintro none ⟨q, given, marked⟩
    obtain ⟨p, member, same⟩ := List.mem_map.mp (env.mem_keys_folded.mpr ⟨q, given, rfl⟩)
    rw [← same] at marked
    exact path?_eq_none_iff.mp (none p member) marked
  · intro nothing p member
    obtain ⟨q, given, same⟩ := env.mem_keys_folded.mp (List.mem_map_of_mem member)
    exact path?_eq_none_iff.mpr fun marked => nothing ⟨q, given, same ▸ marked⟩

/-- Without a variable for the whole object only those for single settings count. -/
theorem settings?_of_no_object (noObject : ∀ p ∈ env, Text.lower p.1 ≠ "lift_scene_render")
    (keys : List String) : env.settings? keys =
      if settingFields env.folded = [] then .ok none
      else .ok (some (.obj (foldNames keys (settingFields env.folded)))) := by
  have object : String.ofList objectName = "lift_scene_render" := String.ofList_toList
  have none : get? (String.ofList objectName) env.folded = none := by
    rw [object, get?_folded, Option.map_eq_none_iff, List.find?_eq_none]
    intro p member
    rw [decide_eq_true_eq]
    exact noObject p (List.mem_reverse.mp member)
  simp only [settings?, none, List.isEmpty_iff]

/-- What the environment gives a setting through the variables for single settings. -/
theorem leaves_folded {key : String} (known : key ∈ Settings.keys) :
    Leaves env.folded key (get? key (foldNames Settings.keys (settingFields env.folded))) := by
  have small : ∀ p ∈ settingFields env.folded, ∀ c ∈ p.1.toList, ¬Text.IsCapital c := by
    intro p member c inside
    obtain ⟨q, given, within⟩ := exists_of_mem_key (List.mem_map_of_mem member) inside
    obtain ⟨_, _, same⟩ := env.mem_keys_folded.mp (List.mem_map_of_mem given)
    rw [← same] at within
    exact Text.not_isCapital_of_mem_lower within
  rw [get?_foldNames key (fun _ => isPlain_of_mem_keys) small (nodup_settingFields _)]
  exact leaves_settingFields (isLevel_of_mem_keys known) env.texts_folded
    (Json.nodup_ofAssignments _)

end ArrayScene.Environment

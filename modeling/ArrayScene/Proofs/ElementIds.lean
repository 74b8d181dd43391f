import ArrayScene.Proofs.SketchRecovery

/-!
# Identifiers of elements

The identifier of an element is made from the name of its scene, the kind of its primitive and its
place, joined by bars. A name may hold bars itself, but the other two parts never do, so the parts
are found again from the end of the text, and different elements have different texts. Whether their
identifiers differ as well is up to the digest; written out, different identifiers have different
texts again.
-/
namespace ArrayScene

/-- What stands before and behind the last of some marks is determined by the whole. -/
theorem append_cons_inj_of_not_mem {α : Type} {c : α} {before before' after after' : List α}
    (last : c ∉ after) (last' : c ∉ after')
    (same : before ++ c :: after = before' ++ c :: after') : before = before' ∧ after = after' := by
  rcases List.append_eq_append_iff.mp same with ⟨more, longer, rest⟩ | ⟨more, longer, rest⟩
  · cases more with
    | nil => simp_all
    | cons d more =>
      rw [List.cons_append, List.cons.injEq] at rest
      refine absurd ?_ last
      rw [rest.2]
      simp
  · cases more with
    | nil => simp_all
    | cons d more =>
      rw [List.cons_append, List.cons.injEq] at rest
      refine absurd ?_ last'
      rw [rest.2]
      simp

namespace NameId

theorem digitChar_inj {m n : Nat} (hm : m < 16) (hn : n < 16)
    (same : Nat.digitChar m = Nat.digitChar n) : m = n := by
  have table : ∀ m < 16, ∀ n < 16, Nat.digitChar m = Nat.digitChar n → m = n := by decide
  exact table m hm n hn same

theorem digitChar_ne_dash {n : Nat} (hn : n < 16) : Nat.digitChar n ≠ '-' := by
  have table : ∀ n < 16, Nat.digitChar n ≠ '-' := by decide
  exact table n hn

theorem octetText_inj {a b : UInt8} (same : octetText a = octetText b) : a = b := by
  simp only [octetText, List.cons.injEq, and_true] at same
  have ha := a.toNat_lt
  have hb := b.toNat_lt
  have high := digitChar_inj (by omega) (by omega) same.1
  have low := digitChar_inj (by omega) (by omega) same.2
  exact UInt8.toNat_inj.mp (by omega)

/-- Octets are read off their digits, two at a time. -/
theorem flatMap_octetText_inj {os os' : List UInt8}
    (same : os.flatMap octetText = os'.flatMap octetText) : os = os' := by
  induction os generalizing os' with
  | nil =>
    cases os' with
    | nil => rfl
    | cons o' os' => simp [octetText] at same
  | cons o os ih =>
    cases os' with
    | nil => simp [octetText] at same
    | cons o' os' =>
      rw [List.flatMap_cons, List.flatMap_cons] at same
      obtain ⟨first, rest⟩ := List.append_inj same rfl
      rw [octetText_inj first, ih rest]

theorem not_dash_of_mem_octets {os : List UInt8} {c : Char} (member : c ∈ os.flatMap octetText) :
    c ≠ '-' := by
  obtain ⟨o, _, digit⟩ := List.mem_flatMap.mp member
  have small := o.toNat_lt
  simp only [octetText, List.mem_cons, List.not_mem_nil, or_false] at digit
  rcases digit with rfl | rfl
  · exact digitChar_ne_dash (by omega)
  · exact digitChar_ne_dash (by omega)

/-- Without its dashes the text of an identifier is the digits of its octets. -/
theorem filter_text {id : NameId} (whole : id.octets.length = 16) :
    id.text.toList.filter (· ≠ '-') = id.octets.flatMap octetText := by
  have digits (os : List UInt8) :
      (os.flatMap octetText).filter (· ≠ '-') = os.flatMap octetText :=
    List.filter_eq_self.mpr fun c member => by simpa using not_dash_of_mem_octets member
  have dash : ['-'].filter (· ≠ '-') = [] := rfl
  have further (i j : Nat) : id.octets.take (i + j) =
      id.octets.take i ++ (id.octets.drop i).take j := List.take_add
  have groups : id.octets = id.octets.take 4 ++ (id.octets.drop 4).take 2 ++
      (id.octets.drop 6).take 2 ++ (id.octets.drop 8).take 2 ++ (id.octets.drop 10).take 6 := by
    rw [← further 4 2, ← further 6 2, ← further 8 2, ← further 10 6,
      List.take_of_length_le (Nat.le_of_eq whole)]
  conv_rhs => rw [groups]
  simp only [text, String.toList_ofList, List.intercalate, List.intersperse, List.flatten_cons,
    List.flatten_nil, List.filter_append, List.flatMap_append, digits, dash, List.drop_zero,
    List.nil_append, List.append_nil, List.append_assoc]

/-- Identifiers of sixteen octets with one text are one identifier. -/
theorem eq_of_text {a b : NameId} (ha : a.octets.length = 16) (hb : b.octets.length = 16)
    (same : a.text = b.text) : a = b := by
  have octets := flatMap_octetText_inj ((filter_text ha).symm.trans (same ▸ filter_text hb))
  cases a
  cases b
  exact congrArg NameId.mk octets

theorem length_octets (count n : Nat) : (Sha1.octets count n).length = count := by
  induction count generalizing n with
  | zero => rfl
  | succ count ih => rw [Sha1.octets, List.length_append, ih, List.length_singleton]

theorem length_marked (os : List UInt8) : (marked os).length = os.length := by
  unfold marked
  split
  · rfl
  · rfl

/-- An identifier made from a name has sixteen octets. -/
theorem length_ofName (space : NameId) (name : String) :
    (space.ofName name).octets.length = 16 := by
  rw [ofName, length_marked, List.length_take]
  simp [Sha1.digest, length_octets]

end NameId

/-- No kind of primitive has a bar in its name. -/
theorem Primitive.bar_not_mem_kindName (p : Primitive) : '|' ∉ p.kindName.toList := by
  cases p with
  | area kind => cases kind <;> simp [kindName, AreaKind.name]
  | arrow => simp [kindName]

namespace Element

theorem toList_toString (n : Nat) : (toString n).toList = Nat.toDigits 10 n := by
  rw [Nat.toString_eq_ofList_toDigits, String.toList_ofList]

theorem bar_not_mem_toString (n : Nat) : '|' ∉ (toString n).toList := by
  rw [toList_toString]
  intro digit
  exact absurd (Decimal.isDigit_of_mem_toDigits digit) (by decide)

theorem toString_inj {m n : Nat} (same : toString m = toString n) : m = n := by
  have digits := congrArg String.toList same
  rw [toList_toString, toList_toString] at digits
  rw [← Decimal.value_toDigits m, digits, Decimal.value_toDigits]

/-- The three parts are found again in the text that they make. -/
theorem idText_inj {scene scene' kind kind' : String} {index index' : Nat}
    (plain : '|' ∉ kind.toList) (plain' : '|' ∉ kind'.toList)
    (same : idText scene kind index = idText scene' kind' index') :
    scene = scene' ∧ kind = kind' ∧ index = index' := by
  have parts (scene kind : String) (index : Nat) : (idText scene kind index).toList =
      (scene.toList ++ '|' :: kind.toList) ++ '|' :: (toString index).toList := by
    simp [idText]
  have bars := congrArg String.toList same
  rw [parts, parts] at bars
  obtain ⟨front, place⟩ :=
    append_cons_inj_of_not_mem (bar_not_mem_toString index) (bar_not_mem_toString index') bars
  obtain ⟨name, word⟩ := append_cons_inj_of_not_mem plain plain' front
  exact ⟨String.toList_inj.mp name, String.toList_inj.mp word,
    toString_inj (String.toList_inj.mp place)⟩

/-- The text that the identifier of an element is made from. -/
def source (e : Element) : String := idText e.scene e.primitive.kindName e.index

/-- Different texts among the given ones have different identifiers. -/
def TellsApart (texts : List String) : Prop :=
  ∀ a ∈ texts, ∀ b ∈ texts, idSpace.ofName a = idSpace.ofName b → a = b

instance (texts : List String) : Decidable (TellsApart texts) :=
  inferInstanceAs (Decidable (∀ a ∈ texts, ∀ b ∈ texts, _))

/-- The identifier that is written in an element of a document. -/
def writtenId? : Json.Value → Option String
  | .obj fields => Json.text? "id" fields
  | _ => none

theorem writtenId?_toJson (e : Element) :
    writtenId? e.toJson = some (idSpace.ofName e.source).text := rfl

/-- The text for the identifier of an element is made of the primitive at its place. -/
theorem source_of_getElem? {unit : Int} {seeds : Seeds} {scene : String} {ps : List Primitive}
    {es : List Element} {i : Nat} {e : Element}
    (made : ofPrimitives unit seeds scene 0 ps = .ok es) (found : es[i]? = some e) :
    e.source = idText scene e.primitive.kindName i ∧ ps[i]? = some e.primitive := by
  obtain ⟨p, at_place, itself⟩ := exists_of_getElem?_ofPrimitives made found
  obtain ⟨name, place, primitive, _⟩ := parts_of_ofPrimitive itself
  exact ⟨by rw [source, name, place], by rw [at_place, primitive]⟩

/-- Where different texts have different identifiers, elements with one identifier have the same
name, kind and place. -/
theorem parts_of_writtenId? {unit unit' : Int} {seeds seeds' : Seeds} {scene scene' : String}
    {ps ps' : List Primitive} {es es' : List Element} {i j : Nat} {e e' : Element}
    (made : ofPrimitives unit seeds scene 0 ps = .ok es)
    (made' : ofPrimitives unit' seeds' scene' 0 ps' = .ok es') (found : es[i]? = some e)
    (found' : es'[j]? = some e') {texts : List String} (apart : TellsApart texts)
    (member : e.source ∈ texts) (member' : e'.source ∈ texts)
    (same : writtenId? e.toJson = writtenId? e'.toJson) :
    scene = scene' ∧ e.primitive.kindName = e'.primitive.kindName ∧ i = j := by
  rw [writtenId?_toJson, writtenId?_toJson, Option.some.injEq] at same
  have ids := NameId.eq_of_text (NameId.length_ofName _ _) (NameId.length_ofName _ _) same
  have sources := apart _ member _ member' ids
  rw [(source_of_getElem? made found).1, (source_of_getElem? made' found').1] at sources
  exact idText_inj (Primitive.bar_not_mem_kindName _) (Primitive.bar_not_mem_kindName _) sources

end Element

/-- The identifier written in an element is made from the name of the scene, the kind of the
primitive and its place, with bars between them. Two of these texts, of one scene or of two and
whatever bars the names hold, are the same only if all three parts are. So if different texts among
them have different identifiers, no two elements of a sketch share one, and elements of two sketches
share one only with the same name, kind and place. -/
theorem element_ids_tell_elements_apart {u v : Int} {seeds seeds' : Seeds} {s t : Scene}
    {sketch sketch' : Sketch} (converted : Sketch.ofScene u seeds s = .ok sketch)
    (converted' : Sketch.ofScene v seeds' t = .ok sketch') :
    (∀ (i : Nat) (e : Element), sketch.elements[i]? = some e → ∃ p, s.primitives[i]? = some p ∧
      Element.writtenId? e.toJson =
        some (Element.idSpace.ofName (s.name ++ "|" ++ p.kindName ++ "|" ++ toString i)).text) ∧
    (∀ (i j : Nat) (p q : Primitive),
      s.name ++ "|" ++ p.kindName ++ "|" ++ toString i =
          t.name ++ "|" ++ q.kindName ++ "|" ++ toString j ↔
        s.name = t.name ∧ p.kindName = q.kindName ∧ i = j) ∧
    (Element.TellsApart ((sketch.elements ++ sketch'.elements).map Element.source) →
      (sketch.elements.map fun e => Element.writtenId? e.toJson).Nodup ∧
      ∀ (i j : Nat) (e e' : Element) (p q : Primitive),
        sketch.elements[i]? = some e → sketch'.elements[j]? = some e' →
        s.primitives[i]? = some p → t.primitives[j]? = some q →
        (Element.writtenId? e.toJson = Element.writtenId? e'.toJson ↔
          s.name = t.name ∧ p.kindName = q.kindName ∧ i = j)) := by
  have made := Sketch.made_of_ofScene converted
  have made' := Sketch.made_of_ofScene converted'
  refine ⟨?written, ?texts, fun apart => ⟨?within, ?across⟩⟩
  case written =>
    intro i e found
    obtain ⟨source, primitive⟩ := Element.source_of_getElem? made found
    exact ⟨e.primitive, primitive, by rw [Element.writtenId?_toJson, source]; rfl⟩
  case texts =>
    intro i j p q
    constructor
    · exact Element.idText_inj p.bar_not_mem_kindName q.bar_not_mem_kindName
    · rintro ⟨name, kind, rfl⟩
      rw [name, kind]
  case within =>
    rw [List.Nodup, List.pairwise_map, List.pairwise_iff_getElem]
    intro i j inside inside' before same
    have places := (Element.parts_of_writtenId? made made (List.getElem?_eq_getElem inside)
      (List.getElem?_eq_getElem inside') apart
      (List.mem_map_of_mem (List.mem_append_left _ (List.getElem_mem inside)))
      (List.mem_map_of_mem (List.mem_append_left _ (List.getElem_mem inside'))) same).2.2
    omega
  case across =>
    intro i j e e' p q found found' primitive primitive'
    obtain ⟨source, own⟩ := Element.source_of_getElem? made found
    obtain ⟨source', own'⟩ := Element.source_of_getElem? made' found'
    cases own.symm.trans primitive
    cases own'.symm.trans primitive'
    constructor
    · exact Element.parts_of_writtenId? made made' found found' apart
        (List.mem_map_of_mem (List.mem_append_left _ (List.mem_of_getElem? found)))
        (List.mem_map_of_mem (List.mem_append_right _ (List.mem_of_getElem? found')))
    · rintro ⟨name, kind, rfl⟩
      rw [Element.writtenId?_toJson, Element.writtenId?_toJson, source, source', name, kind]

/-- Two scenes of which one is named like the text of an element of the other: none of their
elements share an identifier. -/
theorem element_ids_tell_elements_apart_bars :
    let s : Scene := ⟨"a|box|1", [.unit, .box 1 1], 1, 1⟩
    let t : Scene := ⟨"a", [.unit, .box 1 1, .arrow 1 0 0 2], 1, 2⟩
    ∃ sketch sketch', Sketch.ofScene 20 (fun _ => (5, 7)) s = .ok sketch ∧
      Sketch.ofScene 7 (fun _ => (3, 2)) t = .ok sketch' ∧
      (sketch.elements ++ sketch'.elements).map Element.source =
        ["a|box|1|rectangle|0", "a|box|1|box|1", "a|rectangle|0", "a|box|1", "a|arrow|2"] ∧
      Element.TellsApart ((sketch.elements ++ sketch'.elements).map Element.source) ∧
      (sketch.elements.map fun e => Element.writtenId? e.toJson).Nodup ∧
      ∀ (i j : Nat) (e e' : Element),
        sketch.elements[i]? = some e → sketch'.elements[j]? = some e' →
        Element.writtenId? e.toJson ≠ Element.writtenId? e'.toJson := by
  intro s t
  obtain ⟨sketch, converted, texts⟩ : ∃ sketch, Sketch.ofScene 20 (fun _ => (5, 7)) s = .ok sketch ∧
      sketch.elements.map Element.source = ["a|box|1|rectangle|0", "a|box|1|box|1"] :=
    ⟨_, rfl, by decide⟩
  obtain ⟨sketch', converted', texts'⟩ : ∃ sketch',
      Sketch.ofScene 7 (fun _ => (3, 2)) t = .ok sketch' ∧
      sketch'.elements.map Element.source = ["a|rectangle|0", "a|box|1", "a|arrow|2"] :=
    ⟨_, rfl, by decide⟩
  have all : (sketch.elements ++ sketch'.elements).map Element.source =
      ["a|box|1|rectangle|0", "a|box|1|box|1", "a|rectangle|0", "a|box|1", "a|arrow|2"] := by
    rw [List.map_append, texts, texts']
    rfl
  have apart : Element.TellsApart ((sketch.elements ++ sketch'.elements).map Element.source) := by
    rw [all]
    decide +kernel
  obtain ⟨written, _, ids⟩ := element_ids_tell_elements_apart converted converted'
  obtain ⟨distinct, across⟩ := ids apart
  refine ⟨sketch, sketch', converted, converted', all, apart, distinct, ?_⟩
  intro i j e e' found found' same
  obtain ⟨p, own, _⟩ := written i e found
  have own' := (Element.source_of_getElem? (Sketch.made_of_ofScene converted') found').2
  have names := ((across i j e e' p _ found found' own own').mp same).1
  exact absurd names (by decide)

end ArrayScene

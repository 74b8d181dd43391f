import ArrayScene.Proofs.Json.ReadBack
import ArrayScene.Proofs.Recovery
import ArrayScene.Proofs.Store.Saving

/-!
# Documents loaded as they were saved

What is saved at a path is loaded from it again. A scene or a sketch is stored whole once its
integers can be written, so its document is loaded with the same fields in the same order, and the
scene is found again in them. Besides its own integers the document of a scene holds its drawn
size, which can be too large to be written where they are not.
-/
namespace ArrayScene

namespace Json

/-- A value that can be stored if its integers can be written. -/
def Regular (v : Value) : Prop := writable v = true → Storable v

theorem regular_null : Regular .null := fun _ => .null

theorem regular_bool (b : Bool) : Regular (.bool b) := fun _ => .bool b

theorem regular_int (n : Int) : Regular (.int n) := fun fits => .int fits

theorem regular_str (s : String) : Regular (.str s) := fun _ => .str s

theorem regular_arr {items : List Value} (each : ∀ v ∈ items, Regular v) : Regular (.arr items) :=
  fun fits => .arr fun v member => each v member (writableItems_iff.mp fits v member)

theorem regular_obj {fields : Fields} (once : (fields.map Prod.fst).Nodup)
    (each : ∀ p ∈ fields, Regular p.2) : Regular (.obj fields) :=
  fun fits => .obj once fun p member => each p member (writableFields_iff.mp fits p member)

attribute [simp] regular_null regular_bool regular_int regular_str

end Json

namespace Primitive

/-- The integers of a primitive. -/
def measures : Primitive → List Int
  | area _ x y w h => [x, y, w, h]
  | arrow x₁ y₁ x₂ y₂ => [x₁, y₁, x₂, y₂]

theorem regular_toJson (p : Primitive) : Json.Regular p.toJson := by
  refine Json.regular_obj ?_ ?_
  · cases p <;> simp [fields]
  · cases p <;> simp [fields]

theorem writable_toJson {p : Primitive} :
    Json.writable p.toJson = true ↔ ∀ n ∈ p.measures, Json.inWordRange n = true := by
  cases p <;> simp [toJson, fields, measures, Json.writable, Json.writableFields]

end Primitive

namespace Scene

/-- Every integer of the scene can be written: its size and those of its primitives. -/
structure InWordRange (s : Scene) : Prop where
  width : Json.inWordRange s.width = true
  height : Json.inWordRange s.height = true
  primitives : ∀ p ∈ s.primitives, ∀ n ∈ p.measures, Json.inWordRange n = true

theorem regular_toJson (s : Scene) : Json.Regular s.toJson := by
  have items : Json.Regular (.arr (s.primitives.map Primitive.toJson)) := by
    refine Json.regular_arr ?_
    simp [Primitive.regular_toJson]
  refine Json.regular_obj ?_ ?_
  · simp
  · simp [items]

/-- The document of a scene can be written if the scene's own integers can and its drawn size. -/
theorem writable_toJson {s : Scene} :
    Json.writable s.toJson = true ↔
      s.InWordRange ∧ Json.inWordRange s.drawnWidth = true ∧
        Json.inWordRange s.drawnHeight = true := by
  have items : Json.writableItems (s.primitives.map Primitive.toJson) = true ↔
      ∀ p ∈ s.primitives, ∀ n ∈ p.measures, Json.inWordRange n = true := by
    simp [Json.writableItems_iff, Primitive.writable_toJson]
  have version : Json.inWordRange 1 = true := by decide
  simp only [toJson, Json.writable, Json.writableFields, Bool.and_eq_true, items, version,
    true_and, and_true]
  constructor
  · rintro ⟨width, height, drawnWidth, drawnHeight, each⟩
    exact ⟨⟨width, height, each⟩, drawnWidth, drawnHeight⟩
  · rintro ⟨⟨width, height, each⟩, drawnWidth, drawnHeight⟩
    exact ⟨width, height, drawnWidth, drawnHeight, each⟩

end Scene

namespace Element

theorem regular_originJson (e : Element) : Json.Regular e.originJson := by
  refine Json.regular_obj ?_ ?_
  · cases e.primitive <;> simp [Primitive.fields]
  · cases e.primitive <;> simp [Primitive.fields]

/-- No field that an element has of its figure is among those that every element has. -/
theorem nodup_keys (e : Element) :
    ((e.commonFields ++ figureFields e.figure).map Prod.fst).Nodup := by
  cases e.figure <;> simp [commonFields, figureFields]

theorem regular_commonFields (e : Element) : ∀ p ∈ e.commonFields, Json.Regular p.2 := by
  have empty : Json.Regular (.arr []) := Json.regular_arr nofun
  have roundness : Json.Regular (.obj [("type", .int 2)]) :=
    Json.regular_obj (by simp) (by simp)
  have customData : Json.Regular (.obj [("lift_scene", e.originJson)]) :=
    Json.regular_obj (by simp) (by simp [e.regular_originJson])
  cases figure : e.figure <;> simp [commonFields, figure, empty, roundness, customData]

theorem regular_figureFields (figure : Figure) : ∀ p ∈ figureFields figure, Json.Regular p.2 := by
  have point (x y : Int) : Json.Regular (.arr [.int x, .int y]) := Json.regular_arr (by simp)
  have points (dx dy : Int) :
      Json.Regular (.arr [.arr [.int 0, .int 0], .arr [.int dx, .int dy]]) :=
    Json.regular_arr (by simp [point])
  cases figure <;> simp [figureFields, points]

theorem regular_toJson (e : Element) : Json.Regular e.toJson :=
  Json.regular_obj e.nodup_keys
    (List.forall_mem_append.mpr ⟨e.regular_commonFields, regular_figureFields e.figure⟩)

end Element

namespace Sketch

theorem regular_toJson (s : Sketch) : Json.Regular s.toJson := by
  have elements : Json.Regular (.arr (s.elements.map Element.toJson)) := by
    refine Json.regular_arr ?_
    simp [Element.regular_toJson]
  have canvas : Json.Regular s.canvas := by
    refine Json.regular_obj ?_ ?_
    · simp
    · simp
  have files : Json.Regular (.obj []) := Json.regular_obj List.nodup_nil (by simp)
  refine Json.regular_obj ?_ ?_
  · simp
  · simp [elements, canvas, files]

end Sketch

namespace Disk

/-- The file that a saved value leaves is read as the value. -/
theorem save_storable {d : Disk} {p : Path} (writable : d.Writable p) {v : Json.Value}
    (storable : Json.Storable v) :
    ∃ after bytes, d.save p v = (after, .ok ()) ∧ after.read p = .ok bytes ∧
      Json.readBytes bytes = some v := by
  have written : Json.write v = some _ := if_pos storable.writable
  obtain ⟨after, saved, effect⟩ := save_of_writable writable written
  exact ⟨after, _, saved, effect.file, Json.readBytes_of_write storable written⟩

/-- A saved object is loaded again. -/
theorem save_loadObject {d : Disk} {p : Path} (writable : d.Writable p) {fields : Json.Fields}
    (storable : Json.Storable (.obj fields)) :
    ∃ after, d.save p (.obj fields) = (after, .ok ()) ∧ after.loadObject p = .ok fields := by
  obtain ⟨after, bytes, saved, file, readBack⟩ := save_storable writable storable
  refine ⟨after, saved, ?_⟩
  rw [loadObject, file]
  simp only [readBack]

theorem save_loadScene {d : Disk} {p : Path} (writable : d.Writable p) {s : Scene}
    (fits : Json.writable s.toJson = true) :
    ∃ after, d.saveScene p s = (after, .ok ()) ∧ after.loadObject p = .ok s.fields := by
  have storable := s.regular_toJson fits
  rw [s.toJson_eq_fields] at storable
  exact save_loadObject writable storable

theorem save_loadSketch {d : Disk} {p : Path} (writable : d.Writable p) {unit : Int}
    {seeds : Seeds} {s : Scene} {sketch : Sketch}
    (converted : Sketch.ofScene unit seeds s = .ok sketch)
    (fits : Json.writable sketch.toJson = true) :
    ∃ after, d.saveSketch p unit seeds s = (after, .ok ()) ∧
      after.loadSketch p = .ok sketch.toJson := by
  obtain ⟨after, saved, loaded⟩ := save_loadObject writable (sketch.regular_toJson fits)
  refine ⟨after, ?_, ?_⟩
  · simp only [saveSketch, converted]
    exact saved
  · rw [loadSketch, loaded]
    rfl

/-- The files of two scenes are the same only if the scenes are, wherever they were saved. -/
theorem eq_of_same_file {d e after later : Disk} {p q : Path} {s t : Scene}
    (first : d.saveScene p s = (after, .ok ())) (second : e.saveScene q t = (later, .ok ()))
    (same : after.read p = later.read q) : s = t := by
  have reads {d after : Disk} {p : Path} {s : Scene} (saved : d.saveScene p s = (after, .ok ())) :
      ∃ bytes, after.read p = .ok bytes ∧ Json.readBytes bytes = some (.obj s.fields) := by
    obtain ⟨text, written, effect⟩ := saved_of_save saved
    have storable := s.regular_toJson (Json.writable_of_write written)
    exact ⟨_, effect.file, Json.readBytes_of_write storable written⟩
  obtain ⟨bytes, file, readBack⟩ := reads first
  obtain ⟨others, otherFile, otherReadBack⟩ := reads second
  rw [file, otherFile] at same
  cases same
  rw [readBack] at otherReadBack
  have fields : s.fields = t.fields := by simpa using otherReadBack
  have found := s.ofFields?_fields
  rw [fields, t.ofFields?_fields] at found
  exact (Option.some.inj found).symm

end Disk

/-- What is saved is loaded again: every object, every scene that can be written with its drawn
size, and every sketch made of a scene that can be written. The fields of a scene tell its name, its
size and its primitives with their kinds, and no other scene leaves the same file. -/
theorem saved_documents_read_back {d : Disk} {p : Path} (writable : d.Writable p) :
    (∀ fields, Json.Storable (.obj fields) →
      ∃ after, d.save p (.obj fields) = (after, .ok ()) ∧ after.loadObject p = .ok fields) ∧
    (∀ s : Scene, s.InWordRange → Json.inWordRange s.drawnWidth = true →
      Json.inWordRange s.drawnHeight = true →
      ∃ after, d.saveScene p s = (after, .ok ()) ∧ after.loadObject p = .ok s.fields) ∧
    (∀ s : Scene, Scene.ofFields? s.fields = some s) ∧
    (∀ (s t : Scene) (e after later : Disk) (q : Path), d.saveScene p s = (after, .ok ()) →
      e.saveScene q t = (later, .ok ()) → after.read p = later.read q → s = t) ∧
    (∀ unit seeds s sketch, Sketch.ofScene unit seeds s = .ok sketch →
      Json.writable sketch.toJson = true →
      ∃ after, d.saveSketch p unit seeds s = (after, .ok ()) ∧
        after.loadSketch p =
          .ok (sketchDocument (.arr (sketch.elements.map Element.toJson)) sketch.canvas
            (.obj []))) := by
  refine ⟨?object, ?scene, ?recovered, ?injective, ?sketch⟩
  case object => exact fun fields storable => Disk.save_loadObject writable storable
  case scene =>
    intro s range width height
    exact Disk.save_loadScene writable (Scene.writable_toJson.mpr ⟨range, width, height⟩)
  case recovered => exact Scene.ofFields?_fields
  case injective =>
    exact fun s t e after later q first second same => Disk.eq_of_same_file first second same
  case sketch =>
    exact fun unit seeds s sketch converted fits => Disk.save_loadSketch writable converted fits

/-- An object with quotes and controls, a scene and its sketch, each in a folder that is made. -/
theorem saved_documents_read_back_quoted :
    (Disk.startingIn ["work"]).Writable ⟨.relative, ["out", "a.json"]⟩ ∧
    (∃ after, (Disk.startingIn ["work"]).save ⟨.relative, ["out", "a.json"]⟩
        (.obj [("\"", .arr [.int (-0x8000000000000000), .str "\\\n\x01é", .obj []])]) =
          (after, .ok ()) ∧
      after.loadObject ⟨.relative, ["out", "a.json"]⟩ =
        .ok [("\"", .arr [.int (-0x8000000000000000), .str "\\\n\x01é", .obj []])]) ∧
    (∃ after, (Disk.startingIn ["work"]).saveScene ⟨.relative, ["out", "a.json"]⟩
        ⟨"a", [.area .rectangle 0 0 1 1, .arrow 3 0 1 0], 3, 1⟩ = (after, .ok ()) ∧
      after.loadObject ⟨.relative, ["out", "a.json"]⟩ =
        .ok (Scene.fields ⟨"a", [.area .rectangle 0 0 1 1, .arrow 3 0 1 0], 3, 1⟩)) ∧
    (∃ after, (Disk.startingIn ["work"]).saveSketch ⟨.relative, ["out", "a.json"]⟩ 20
        (fun _ => (5, 7)) ⟨"a", [.area .rectangle 0 0 1 1], 1, 1⟩ = (after, .ok ()) ∧
      after.loadSketch ⟨.relative, ["out", "a.json"]⟩ =
        .ok (Sketch.toJson ⟨[⟨"a", 0, .area .rectangle 0 0 1 1, 0, 0, 20, 20, .filled, (5, 7)⟩],
          20⟩)) := by
  have writable : (Disk.startingIn ["work"]).Writable ⟨.relative, ["out", "a.json"]⟩ :=
    ⟨by decide, by rfl, by decide, by decide⟩
  have storable : Json.Storable
      (.obj [("\"", .arr [.int (-0x8000000000000000), .str "\\\n\x01é", .obj []])]) :=
    Json.regular_obj (by decide) (by
      simp [Json.regular_arr, Json.regular_obj]) (by decide)
  have law := saved_documents_read_back writable
  refine ⟨writable, law.1 _ storable, ?_, ?_⟩
  · refine law.2.1 _ ⟨by decide, by decide, by decide⟩ (by decide) (by decide)
  · exact law.2.2.2.2 _ _ _ _ rfl rfl

/-- A square at the last column that can be written: its own integers can be, but not the width of
the drawing, so nothing is saved. -/
theorem drawn_width_beyond_range_not_saved :
    Scene.InWordRange ⟨"a", [.area .rectangle 0xFFFFFFFFFFFFFFFF 0 1 1], 1, 1⟩ ∧
    (Disk.startingIn ["work"]).Writable ⟨.relative, ["a.json"]⟩ ∧
    ((Disk.startingIn ["work"]).saveScene ⟨.relative, ["a.json"]⟩
        ⟨"a", [.area .rectangle 0xFFFFFFFFFFFFFFFF 0 1 1], 1, 1⟩).2 = .error .integerRange ∧
    ¬∃ after, (Disk.startingIn ["work"]).saveScene ⟨.relative, ["a.json"]⟩
        ⟨"a", [.area .rectangle 0xFFFFFFFFFFFFFFFF 0 1 1], 1, 1⟩ = (after, .ok ()) ∧
      after.loadObject ⟨.relative, ["a.json"]⟩ =
        .ok (Scene.fields ⟨"a", [.area .rectangle 0xFFFFFFFFFFFFFFFF 0 1 1], 1, 1⟩) := by
  refine ⟨⟨by decide, by decide, by decide⟩, ⟨by decide, by rfl, by decide, by decide⟩, rfl, ?_⟩
  rintro ⟨after, saved, _⟩
  have fits := (Disk.writable_of_save saved).2
  exact absurd fits (by decide)

end ArrayScene

import ArrayScene.Store.Path

/-!
# A disk

The files and folders that commands work on. A disk lists its entries by where they are; the root
is always a folder and is not listed. A path is followed part by part, from the root or from the
working folder, and each part needs a folder to be looked up in; `..` leads back, and no further
than the root.
-/
namespace ArrayScene

/-- Where an entry is: the names that lead to it from the root. -/
abbrev Location := List String

inductive Entry where
  | file (content : ByteArray)
  | folder

instance : DecidableEq Entry
  | .file a, .file b =>
    if same : a.data = b.data then .isTrue (by rw [ByteArray.ext same])
    else .isFalse (fun equal => same (congrArg ByteArray.data (Entry.file.inj equal)))
  | .folder, .folder => .isTrue rfl
  | .file _, .folder => .isFalse nofun
  | .folder, .file _ => .isFalse nofun

inductive DiskFault where
  | notFound | isFolder | notFolder | exists
  deriving DecidableEq, Repr

/-- Entries by location, of which the first one for a location counts, and the working folder, from
which relative paths start. -/
structure Disk where
  entries : List (Location × Entry)
  here : Location

namespace Disk

/-- The disk that has only the working folder and those it lies in. -/
def startingIn (here : Location) : Disk :=
  ⟨(List.range here.length).map fun n => (here.take (n + 1), .folder), here⟩

/-- What is at a location. -/
def at? (d : Disk) (loc : Location) : Option Entry :=
  if loc = [] then some .folder else d.entries.lookup loc

/-- The disk with an entry put at a location, instead of what was there. -/
def put (d : Disk) (loc : Location) (e : Entry) : Disk :=
  { d with entries := (loc, e) :: d.entries.filter (·.1 ≠ loc) }

/-- The disk without the entry at a location. -/
def remove (d : Disk) (loc : Location) : Disk :=
  { d with entries := d.entries.filter (·.1 ≠ loc) }

/-- The location one part further on. -/
def step (loc : Location) (part : String) : Location :=
  if part = ".." then loc.dropLast else loc ++ [part]

/-- Where the parts of a path lead to from a location. -/
def walk (d : Disk) (loc : Location) : List String → Except DiskFault Location
  | [] => .ok loc
  | part :: rest =>
    match d.at? loc with
    | none => .error .notFound
    | some (.file _) => .error .notFolder
    | some .folder => walk d (step loc part) rest

/-- Where a path starts. -/
def origin (d : Disk) (root : PathRoot) : Location := if root = .relative then d.here else []

/-- Where a path leads to. -/
def locate (d : Disk) (p : Path) : Except DiskFault Location := d.walk (d.origin p.root) p.parts

/-- What a path leads to. -/
def look (d : Disk) (p : Path) : Except DiskFault Entry := do
  let loc ← d.locate p
  match d.at? loc with
  | some e => .ok e
  | none => .error .notFound

/-- Whether a path leads to something. -/
def has (d : Disk) (p : Path) : Bool :=
  match d.look p with
  | .ok _ => true
  | .error _ => false

/-- The content of a file. -/
def read (d : Disk) (p : Path) : Except DiskFault ByteArray := do
  match ← d.look p with
  | .file content => .ok content
  | .folder => .error .isFolder

/-- A file written, or written over. -/
def write (d : Disk) (p : Path) (content : ByteArray) : Except DiskFault Disk := do
  let loc ← d.locate p
  match d.at? loc with
  | some .folder => .error .isFolder
  | _ => .ok (d.put loc (.file content))

/-- A folder made in a folder that is there. -/
def makeFolder (d : Disk) (p : Path) : Except DiskFault Disk := do
  let loc ← d.locate p
  match d.at? loc with
  | some _ => .error .exists
  | none => .ok (d.put loc .folder)

/-- A folder made unless it is there. -/
def ensureFolder (d : Disk) (p : Path) : Except DiskFault Disk :=
  match d.makeFolder p, d.look p with
  | .error .exists, .ok .folder => .ok d
  | result, _ => result

/-- A folder and those it lies in made unless they are there; the parts of its path are given in
reverse. The disk that is given back has what was made before a fault. -/
def ensureParts (d : Disk) (root : PathRoot) : List String → Disk × Except DiskFault Unit
  | [] =>
    match d.ensureFolder ⟨root, []⟩ with
    | .ok d => (d, .ok ())
    | .error fault => (d, .error fault)
  | part :: above =>
    let p : Path := ⟨root, (part :: above).reverse⟩
    match d.ensureFolder p with
    | .ok d => (d, .ok ())
    | .error .notFound =>
      match d.ensureParts root above with
      | (d, .error fault) => (d, .error fault)
      | (d, .ok ()) =>
        match d.ensureFolder p with
        | .ok d => (d, .ok ())
        | .error fault => (d, .error fault)
    | .error fault => (d, .error fault)

/-- A folder and those it lies in made unless they are there. -/
def ensureFolders (d : Disk) (p : Path) : Disk × Except DiskFault Unit :=
  d.ensureParts p.root p.parts.reverse

/-- A file moved to another place, over a file that is there. -/
def move (d : Disk) (source target : Path) : Except DiskFault Disk := do
  let src ← d.locate source
  let dst ← d.locate target
  match d.at? src, d.at? dst with
  | none, _ => .error .notFound
  | some .folder, _ => .error .isFolder
  | some (.file _), some .folder => .error .isFolder
  | some (.file content), _ => .ok ((d.remove src).put dst (.file content))

/-- The names in the folder at a location. -/
def namesIn (d : Disk) (loc : Location) : List String :=
  d.entries.filterMap fun (place, _) =>
    match place.getLast? with
    | some name => if place.dropLast = loc then some name else none
    | none => none

/-- The names in the folder that a path leads to, in order; none if it leads to no folder. -/
def list (d : Disk) (p : Path) : List String :=
  match d.locate p, d.look p with
  | .ok loc, .ok .folder => (d.namesIn loc).mergeSort (fun a b => decide (a ≤ b))
  | _, _ => []

theorem at?_put_self (d : Disk) {loc : Location} (e : Entry) (h : loc ≠ []) :
    (d.put loc e).at? loc = some e := by
  simp [at?, put, h]

theorem lookup_filter_ne {loc other : Location} (es : List (Location × Entry)) (h : other ≠ loc) :
    (es.filter (·.1 ≠ loc)).lookup other = es.lookup other := by
  induction es with
  | nil => rfl
  | cons p es ih =>
    obtain ⟨l, e⟩ := p
    by_cases hl : l = loc
    · subst hl
      have h' : (other == l) = false := by simpa using h
      simpa [List.lookup_cons, h'] using ih
    · by_cases ho : other = l
      · subst ho; simp [hl]
      · have h' : (other == l) = false := by simpa using ho
        simpa [List.lookup_cons, hl, h'] using ih

/-- Every other location keeps its entry. -/
theorem at?_put_of_ne (d : Disk) {loc other : Location} (e : Entry) (h : other ≠ loc) :
    (d.put loc e).at? other = d.at? other := by
  have h' : (other == loc) = false := by simpa using h
  simp only [at?, put, List.lookup_cons, h', lookup_filter_ne d.entries h]

theorem at?_remove_of_ne (d : Disk) {loc other : Location} (h : other ≠ loc) :
    (d.remove loc).at? other = d.at? other := by
  simp only [at?, remove, lookup_filter_ne d.entries h]

end Disk

end ArrayScene

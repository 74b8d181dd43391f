import ArrayScene.Text.Pieces

/-!
# Paths

The written form of a path and its parts. Repeated and trailing slashes and the part `.` do not
count, `..` stays as it is, and exactly two slashes in front are kept as two. A name has a stem and
a suffix, which begins at its last point unless that is its first or its last character.
-/
namespace ArrayScene

/-- What stands in front of the first part. -/
inductive PathRoot where
  | relative | slash | doubleSlash
  deriving DecidableEq, Repr

structure Path where
  root : PathRoot
  parts : List String
  deriving DecidableEq, Repr

namespace PathRoot

def text : PathRoot → String
  | relative => ""
  | slash => "/"
  | doubleSlash => "//"

/-- The root of a written path. -/
def ofChars : List Char → PathRoot
  | '/' :: '/' :: '/' :: _ => slash
  | '/' :: '/' :: _ => doubleSlash
  | '/' :: _ => slash
  | _ => relative

end PathRoot

namespace Path

/-- Whether a piece is a part of the path. -/
def isPart (piece : List Char) : Bool := !piece.isEmpty && piece != ['.']

/-- The path that a text writes. -/
def ofString (text : String) : Path :=
  ⟨PathRoot.ofChars text.toList, ((Text.pieces '/' text.toList).filter isPart).map String.ofList⟩

/-- The text of a path. -/
def toString (p : Path) : String :=
  if p.root = .relative ∧ p.parts = [] then "." else p.root.text ++ "/".intercalate p.parts

/-- The last part, or the empty text if there is none. -/
def name (p : Path) : String := p.parts.getLast?.getD ""

/-- The path without its last part. -/
def parent (p : Path) : Path := ⟨p.root, p.parts.dropLast⟩

/-- The path one part longer. -/
def child (p : Path) (name : String) : Path := ⟨p.root, p.parts ++ [name]⟩

/-- The characters of a name before its last point and those behind it. -/
def splitLastPoint (cs : List Char) : Option (List Char × List Char) :=
  match cs.reverse.dropWhile (· ≠ '.') with
  | _ :: before => some (before.reverse, (cs.reverse.takeWhile (· ≠ '.')).reverse)
  | [] => none

/-- A name without its suffix. -/
def stemOf (name : String) : String :=
  match splitLastPoint name.toList with
  | some (before, after) =>
    if before.isEmpty ∨ after.isEmpty then name else String.ofList before
  | none => name

/-- The last part without its suffix. -/
def stem (p : Path) : String := stemOf p.name

/-- The path with the last part lengthened. -/
def lengthened (p : Path) (more : String) : Path := p.parent.child (p.name ++ more)

end Path

end ArrayScene

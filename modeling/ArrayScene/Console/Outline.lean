import ArrayScene.Console.Printing
import ArrayScene.Node.Extent

/-!
# Outlines

A tree of labels, printed one label a line with guides that show what lies within what, and the
outline of a scene node: what each node is, its sizes, and its extent. Numbers with more digits than
`digitLimit` have no printed text.
-/
namespace ArrayScene

/-- A label and what lies within it. -/
inductive Outline where
  | item (label : String) (within : List Outline)

namespace Outline

mutual

/-- The lines of what lies within an outline, below the guides of what it lies in itself. -/
def linesWithin (console : Console) (guides : String) :
    List Outline → Except Failure (List String)
  | [] => .ok []
  | [.item label within] => do
    let first ← console.line label
    let rest ← linesWithin console (guides ++ "    ") within
    .ok ((guides ++ "└── " ++ first) :: rest)
  | .item label within :: others => do
    let first ← console.line label
    let rest ← linesWithin console (guides ++ "│   ") within
    let more ← linesWithin console guides others
    .ok ((guides ++ "├── " ++ first) :: rest ++ more)

end

/-- The printed outline. -/
def print (console : Console) : Outline → Except Failure String
  | .item label within => do
    let first ← console.line label
    let rest ← linesWithin console "" within
    .ok (first ++ String.join rest)

end Outline

namespace Node

/-- The decimal text of a size. -/
def sizeText (n : Int) : String := String.ofList (Decimal.ofInt n)

/-- The decimal text of a size, unless it has too many digits. -/
def printedSize (n : Int) : Except Failure String :=
  if Decimal.digitCount n ≤ Decimal.digitLimit then .ok (sizeText n) else .error .digitLimit

/-- The extent of a node as it is printed. -/
def extentText (n : Node) : Except Failure String := do
  let w ← n.width.mapError Failure.scene
  let width ← printedSize w
  let h ← n.height.mapError Failure.scene
  let height ← printedSize h
  .ok (width ++ "x" ++ height)

/-- What is printed of a node itself. A bare node has no label. -/
def label : Node → Except Failure String
  | float => do
    let extent ← float.extentText
    .ok ("Float " ++ extent)
  | linear e n => do
    let extent ← (linear e n).extentText
    let size ← printedSize n
    .ok ("LinearArray[" ++ size ++ "] " ++ extent)
  | grid e w h => do
    let extent ← (grid e w h).extentText
    let width ← printedSize w
    let height ← printedSize h
    .ok ("GridArray[" ++ width ++ "x" ++ height ++ "] " ++ extent)
  | map i o n => do
    let extent ← (map i o n).extentText
    let size ← printedSize n
    .ok ("Map[" ++ size ++ "] " ++ extent)
  | bare c => .error (.scene (.unknownNode (.bare c)))

/-- The outline of a node. -/
def outline : Node → Except Failure (List Outline)
  | float => do
    let label ← float.label
    .ok [.item label []]
  | linear e n => do
    let label ← (linear e n).label
    let within ← e.outline
    .ok [.item label within]
  | grid e w h => do
    let label ← (grid e w h).label
    let within ← e.outline
    .ok [.item label within]
  | map i o n => do
    let label ← (map i o n).label
    let input ← i.outline
    let output ← o.outline
    .ok [.item label [.item "input" input, .item "output" output]]
  | bare c => do
    let label ← (bare c).label
    .ok [.item label []]

end Node

end ArrayScene

/-!
# Pieces of a text

A text cut at every occurrence of a mark.
-/
namespace ArrayScene.Text

/-- The pieces of a text between the occurrences of a mark; there is always one. -/
def pieces (mark : Char) : List Char → List (List Char)
  | [] => [[]]
  | c :: rest =>
    if c = mark then [] :: pieces mark rest
    else match pieces mark rest with
      | [] => [[c]]
      | piece :: more => (c :: piece) :: more

end ArrayScene.Text

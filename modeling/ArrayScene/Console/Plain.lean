import ArrayScene.Console.Markup
import ArrayScene.Text.LetterCase

/-!
# A plain console

A console for those who print no styles. It knows the short words for single styles, so that a style
may be opened by the one and closed by the other word, and takes all else as it is given: other
consoles keep some words, as those of several styles, in a form of their own, and have pictures to
print.
-/
namespace ArrayScene.Console

/-- The short words for styles. -/
def styleWords : List (String × String) :=
  [("b", "bold"), ("d", "dim"), ("i", "italic"), ("u", "underline"), ("r", "reverse"),
    ("c", "conceal"), ("s", "strike"), ("uu", "underline2"), ("o", "overline")]

/-- A console that calls no handlers and so reads nothing for them. -/
def plain : Console where
  styleName words :=
    let word := Text.lower (String.ofList (Text.trim Text.isBlank words.toList))
    some ((styleWords.lookup word).getD word)
  readsParameters _ := true
  pictures cs := cs
  styleName_of_mem := by decide
  pictures_of_no_colon _ _ := rfl

end ArrayScene.Console

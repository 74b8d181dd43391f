import ArrayScene.Console.Markup
import ArrayScene.Failure
import ArrayScene.Text.Columns

/-!
# Printing

What a console shows of a text with markup: the text without its tags, without the controls that
would move the cursor, and with its tabs filled up, on lines of its own.
-/
namespace ArrayScene

namespace Console

/-- The controls that are not printed. -/
def isDropped (c : Char) : Bool :=
  let n := c.toNat
  n == 7 || n == 8 || n == 11 || n == 12 || n == 13

/-- What is shown of a text with markup, ended by a line end. -/
def line (console : Console) (text : String) : Except Failure String :=
  match Markup.print console text.toList with
  | .ok cs => .ok (String.ofList (Text.expandTabs (cs.filter fun c => !isDropped c)) ++ "\n")
  | .error fault => .error (.markup fault)

end Console

end ArrayScene

/-!
# Blank characters

Two sets of characters count as blank. A setting given as text is stripped of the wide set, which
has the four separator controls in it; a number given as text is trimmed of the Unicode
`White_Space` set, which has not.
-/
namespace ArrayScene.Text

/-- The characters of the Unicode property `White_Space`. -/
def isWhiteSpace (c : Char) : Bool :=
  let n := c.toNat
  (0x09 ≤ n && n ≤ 0x0D) || n == 0x20 || n == 0x85 || n == 0xA0 || n == 0x1680 ||
    (0x2000 ≤ n && n ≤ 0x200A) || n == 0x2028 || n == 0x2029 || n == 0x202F || n == 0x205F ||
    n == 0x3000

/-- `White_Space` together with the separator controls U+001C to U+001F. -/
def isBlank (c : Char) : Bool :=
  isWhiteSpace c || (0x1C ≤ c.toNat && c.toNat ≤ 0x1F)

/-- A text without the characters of a class at its two ends. -/
def trim (p : Char → Bool) (cs : List Char) : List Char :=
  ((cs.dropWhile p).reverse.dropWhile p).reverse

end ArrayScene.Text

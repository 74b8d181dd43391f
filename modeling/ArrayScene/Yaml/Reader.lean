import ArrayScene.Yaml.Flow

/-!
# Reading a settings file

Block mappings, which are nested by indentation, over the flow collections and scalars. A document
is cut into lines, of which blank lines and comments do not count; the value of a key stands behind
it or, as a mapping of its own, in deeper lines below it.

What is read is a fragment of the language: one document, which marks of its begin and its end may
enclose, with mappings, flow sequences, and scalars of one line. Keys stand for themselves, and
collections may nest to any depth. Files with anything else are refused, so with several documents,
directives, tags, anchors and aliases, merged mappings, sequences of lines, blocks of text, scalars
over several lines, keys of more than `keyLimit` characters, tabs, and dates and the other values
that `scalar` leaves out.
-/
namespace ArrayScene.Yaml

/-- A line: how far it is indented, and the characters from there on. -/
structure Line where
  indent : Nat
  content : List Char
  deriving DecidableEq, Repr

/-- A text with every line end written as one character. -/
def uniformLines : List Char → List Char
  | [] => []
  | '\r' :: '\n' :: rest => '\n' :: uniformLines rest
  | '\r' :: rest => '\n' :: uniformLines rest
  | c :: rest => c :: uniformLines rest

/-- Whether nothing but a comment follows. -/
def isFinished (cs : List Char) : Bool :=
  match cs.dropWhile isGap with
  | [] => true
  | c :: _ => c == '#' && cs.head?.any isGap

/-- Whether a line counts. -/
def counts (cs : List Char) : Bool :=
  match cs.dropWhile (· == ' ') with
  | [] => false
  | c :: _ => c != '#'

/-- Whether a line begins with a mark of the begin or the end of a document. -/
def isMarked (mark : String) (cs : List Char) : Bool :=
  mark.toList.isPrefixOf cs && (cs.drop 3).head?.all isGap

/-- A line by its indentation. -/
def Line.of (cs : List Char) : Line :=
  let content := cs.dropWhile (· == ' ')
  ⟨cs.length - content.length, content⟩

/-- The lines of a document that count, without the mark of its begin before them and that of its
end behind them, which does not stand alone. -/
def lines? (text : List (List Char)) : Option (List Line) :=
  let lines := text.filter counts
  let opened :=
    match lines with
    | cs :: rest => if isMarked "---" cs && isFinished (cs.drop 3) then rest else lines
    | [] => []
  let closed :=
    match opened.getLast? with
    | some cs =>
      if 1 < lines.length ∧ isMarked "..." cs ∧ isFinished (cs.drop 3) then opened.dropLast
      else opened
    | none => []
  if closed.any fun cs => isMarked "---" cs || isMarked "..." cs then none
  else some (closed.map Line.of)

/-- The characters before a comment. -/
def beforeComment : List Char → List Char
  | [] => []
  | c :: rest => if isGap c ∧ rest.head? = some '#' then [] else c :: beforeComment rest

/-- An unquoted key, up to a colon that a blank or the end of the line follows. -/
def plainKey : List Char → Option (List Char × List Char)
  | [] => none
  | c :: rest =>
    if c = ':' ∧ rest.head?.all isGap then some ([], rest)
    else if isGap c ∧ rest.head? = some '#' then none
    else (plainKey rest).map fun (cs, after) => (c :: cs, after)

/-- The key that a line begins with, and what stands behind its colon. -/
def key? (cs : List Char) : Option (String × List Char) :=
  let quoted (read : Option (List Char × List Char)) : Option (String × List Char) :=
    match read with
    | some (k, after) =>
      match after.dropWhile isGap with
      | ':' :: rest =>
        if rest.head?.all isGap && isShortKey cs rest then some (String.ofList k, rest) else none
      | _ => none
    | none => none
  match cs with
  | '"' :: rest => quoted (doubleQuoted rest)
  | '\'' :: rest => quoted (singleQuoted rest)
  | '{' :: _ => none
  | '[' :: _ => none
  | cs =>
    if beginsWord cs then
      match plainKey cs with
      | some (k, rest) =>
        let key := Text.trim isGap k
        if isText key && isShortKey cs rest then some (String.ofList key, rest) else none
      | none => none
    else none

/-- A flow collection that begins in a text and may go on in the lines below it; the lines after
it. -/
def flowOver (text : List Char) (lines : List Line) : Option (Json.Value × List Line) :=
  match flowValue (2 * text.length + 2) text, lines with
  | some (v, rest), lines => if isFinished rest then some (v, lines) else none
  | none, [] => none
  | none, l :: lines => flowOver (text ++ '\n' :: l.content) lines

/-- A value on one line. -/
def inlineValue (cs : List Char) (lines : List Line) : Option (Json.Value × List Line) :=
  let closed (read : Option (List Char × List Char)) : Option (Json.Value × List Line) :=
    match read with
    | some (s, rest) => if isFinished rest then some (.str (String.ofList s), lines) else none
    | none => none
  match cs with
  | '"' :: rest => closed (doubleQuoted rest)
  | '\'' :: rest => closed (singleQuoted rest)
  | '{' :: _ => flowOver cs lines
  | '[' :: _ => flowOver cs lines
  | [] => some (.null, lines)
  | cs =>
    if beginsWord cs ∧ (plainKey cs).isNone then
      (scalar (Text.trim isGap (beforeComment cs))).map fun v => (v, lines)
    else none

/-- The fields of a block mapping whose lines have an indent, and the lines after it. -/
def block (indent : Nat) : Nat → List Line → Option (List (String × Json.Value) × List Line)
  | 0, _ => none
  | _ + 1, [] => some ([], [])
  | n + 1, l :: lines =>
    if l.indent < indent then some ([], l :: lines)
    else if indent < l.indent then none
    else
      match key? l.content with
      | none => none
      | some (k, rest) =>
        let value : Option (Json.Value × List Line) :=
          if isFinished rest then
            match lines with
            | next :: _ =>
              if indent < next.indent then
                if (key? next.content).isSome then
                  (block next.indent n lines).map fun (ps, lines) =>
                    (.obj (Json.ofAssignments ps), lines)
                else inlineValue next.content (lines.drop 1)
              else some (.null, lines)
            | [] => some (.null, [])
          else inlineValue (rest.dropWhile isGap) lines
        match value with
        | none => none
        | some (v, lines) => (block indent n lines).map fun (ps, lines) => ((k, v) :: ps, lines)

/-- The value that the lines of a document hold. -/
def ofLines (lines : List Line) : Option Json.Value :=
  match lines with
  | [] => some .null
  | l :: rest =>
    if (key? l.content).isSome then
      match block l.indent (lines.length + 1) lines with
      | some (ps, []) => some (.obj (Json.ofAssignments ps))
      | _ => none
    else
      match inlineValue (l.content.dropWhile isGap) rest with
      | some (v, []) => some v
      | _ => none

/-- Whether a settings file may hold a character: line ends and what can be seen, other than the
marks of a line's or a text's begin in other scripts. -/
def isAllowed (c : Char) : Bool :=
  let n := c.toNat
  n == 0x0A || n == 0x0D || (0x20 ≤ n && n ≤ 0x7E) ||
    (0xA0 ≤ n && n ≤ 0xFFFD && n != 0x2028 && n != 0x2029 && n != 0xFEFF) || 0x10000 ≤ n

/-- The value that a settings file holds, if it can be read. -/
def read (text : String) : Option Json.Value :=
  if text.toList.all isAllowed then
    (lines? (Text.pieces '\n' (uniformLines text.toList))).bind ofLines
  else none

end ArrayScene.Yaml

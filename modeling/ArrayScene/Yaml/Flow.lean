import ArrayScene.Json.Reader
import ArrayScene.Yaml.Scalar

/-!
# Quoted scalars and flow collections

The parts of a settings file that are closed by a mark of their own: scalars in single or double
quotes, mappings in braces and sequences in brackets. A scalar ends on the line on which it begins.
Each function takes the characters that are left and gives back those that follow what it read.
-/
namespace ArrayScene.Yaml

/-- A scalar in single quotes, after the first of them; two quotes stand for one. -/
def singleQuoted : List Char → Option (List Char × List Char)
  | [] => none
  | '\n' :: _ => none
  | '\'' :: '\'' :: rest => (singleQuoted rest).map fun (cs, after) => ('\'' :: cs, after)
  | '\'' :: rest => some ([], rest)
  | c :: rest => (singleQuoted rest).map fun (cs, after) => (c :: cs, after)

/-- The code point of a single-letter escape. -/
def escapeCode? (c : Char) : Option Nat :=
  [('0', 0), ('a', 7), ('b', 8), ('t', 9), ('n', 10), ('v', 11), ('f', 12), ('r', 13),
    ('e', 27), (' ', 32), ('"', 34), ('/', 47), ('\\', 92), ('N', 0x85), ('_', 0xA0),
    ('L', 0x2028), ('P', 0x2029)].lookup c

/-- A scalar in double quotes, after the first of them. -/
def doubleQuoted : List Char → Option (List Char × List Char)
  | [] => none
  | '"' :: rest => some ([], rest)
  | '\\' :: 'x' :: a :: b :: rest =>
    match Json.hexUnit? '0' '0' a b with
    | some n => (doubleQuoted rest).map fun (cs, after) => (Char.ofNat n :: cs, after)
    | none => none
  | '\\' :: 'u' :: a :: b :: c :: d :: rest =>
    match Json.hexUnit? a b c d with
    | some n =>
      if 0xD800 ≤ n ∧ n ≤ 0xDFFF then none
      else (doubleQuoted rest).map fun (cs, after) => (Char.ofNat n :: cs, after)
    | none => none
  | '\\' :: e :: rest =>
    match escapeCode? e with
    | some n => (doubleQuoted rest).map fun (cs, after) => (Char.ofNat n :: cs, after)
    | none => none
  | c :: rest =>
    if c = '\\' ∨ c = '\n' then none
    else (doubleQuoted rest).map fun (cs, after) => (c :: cs, after)

def isGap (c : Char) : Bool := c == ' ' || c == '\n'

/-- The characters after blanks, line ends and comments. -/
def skipGap : Bool → List Char → List Char
  | _, [] => []
  | true, c :: rest => skipGap (c != '\n') rest
  | false, c :: rest =>
    if isGap c then skipGap false rest
    else if c = '#' then skipGap true rest
    else c :: rest

/-- Whether the next character ends a word inside a flow collection. -/
def endsWord (next : Option Char) : Bool :=
  match next with
  | none => true
  | some c => isGap c || c == ',' || c == ']' || c == '}' || c == '[' || c == '{'

/-- An unquoted word inside a flow collection. -/
def flowWord : List Char → List Char × List Char
  | [] => ([], [])
  | c :: rest =>
    if c = ',' ∨ c = '?' ∨ c = '[' ∨ c = ']' ∨ c = '{' ∨ c = '}' ∨ c = '\n' then ([], c :: rest)
    else if c = ':' ∧ endsWord rest.head? then ([], c :: rest)
    else if isGap c ∧ rest.head? = some '#' then ([], c :: rest)
    else
      let (cs, after) := flowWord rest
      (c :: cs, after)

/-- Whether characters begin an unquoted word. Tags, anchors, aliases, blocks of text, directives,
the items of a sequence and keys with a mark of their own do not. -/
def beginsWord (cs : List Char) : Bool :=
  match cs with
  | [] => false
  | '-' :: rest => !rest.head?.all isGap
  | c :: _ =>
    !(c == '&' || c == '*' || c == '!' || c == '|' || c == '>' || c == '%' || c == '@' ||
      c == ',' || c == ']' || c == '}' || c == '?' || c == ':' || c == '#' || c.toNat == 0x60)

/-- Whether a word stands for itself. -/
def isText (cs : List Char) : Bool :=
  match scalar cs with
  | some (.str _) => true
  | _ => false

/-- How many characters a key may have with the blanks behind it. -/
def keyLimit : Nat := 1024

/-- Whether a key is short enough, told from the characters from its first one on and those behind
its colon. -/
def isShortKey (cs behind : List Char) : Bool := cs.length ≤ behind.length + keyLimit + 1

mutual

/-- A value inside a flow collection. -/
def flowValue : Nat → List Char → Option (Json.Value × List Char)
  | 0, _ => none
  | n + 1, cs =>
    match cs with
    | '"' :: rest => (doubleQuoted rest).map fun (s, after) => (.str (String.ofList s), after)
    | '\'' :: rest => (singleQuoted rest).map fun (s, after) => (.str (String.ofList s), after)
    | '{' :: rest =>
      (flowFields n (skipGap false rest)).map fun (ps, after) =>
        (.obj (Json.ofAssignments ps), after)
    | '[' :: rest => (flowItems n (skipGap false rest)).map fun (vs, after) => (.arr vs, after)
    | cs =>
      if beginsWord cs then
        let (word, after) := flowWord cs
        (scalar (Text.trim isGap word)).map fun v => (v, after)
      else none

/-- The items of a sequence and its closing bracket. -/
def flowItems : Nat → List Char → Option (List Json.Value × List Char)
  | 0, _ => none
  | n + 1, cs =>
    match cs with
    | ']' :: rest => some ([], rest)
    | cs =>
      match flowValue n cs with
      | none => none
      | some (v, after) =>
        match skipGap false after with
        | ',' :: rest =>
          (flowItems n (skipGap false rest)).map fun (vs, after) => (v :: vs, after)
        | ']' :: rest => some ([v], rest)
        | _ => none

/-- The fields of a mapping and its closing brace; a key without a value has null. -/
def flowFields : Nat → List Char → Option (List (String × Json.Value) × List Char)
  | 0, _ => none
  | n + 1, cs =>
    match cs with
    | '}' :: rest => some ([], rest)
    | cs =>
      match flowKey n cs with
      | none => none
      | some (p, after) =>
        match skipGap false after with
        | ',' :: rest =>
          (flowFields n (skipGap false rest)).map fun (ps, after) => (p :: ps, after)
        | '}' :: rest => some ([p], rest)
        | _ => none

/-- A key and its value. The colon stands on the line of the key. -/
def flowKey : Nat → List Char → Option ((String × Json.Value) × List Char)
  | 0, _ => none
  | n + 1, cs =>
    let key : Option (List Char × List Char) :=
      match cs with
      | '"' :: rest => doubleQuoted rest
      | '\'' :: rest => singleQuoted rest
      | cs =>
        if beginsWord cs then
          let (word, after) := flowWord cs
          let key := Text.trim isGap word
          if isText key then some (key, after) else none
        else none
    match key with
    | none => none
    | some (k, after) =>
      match after.dropWhile (· == ' ') with
      | ':' :: behind =>
        let rest := skipGap false behind
        if !isShortKey cs behind then none
        else if rest.head? = some ',' ∨ rest.head? = some '}' then
          some ((String.ofList k, .null), rest)
        else (flowValue n rest).map fun (v, after) => ((String.ofList k, v), after)
      | rest => some ((String.ofList k, .null), rest)

end

end ArrayScene.Yaml

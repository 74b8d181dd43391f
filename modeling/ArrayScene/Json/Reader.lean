import ArrayScene.Decimal.Integer
import ArrayScene.Json.Value

/-!
# Reading JSON

A strict reader: no comment, trailing comma, leading zero, bare point, control character inside a
string or lone surrogate, and nothing after the value but blanks. `IntegerRange` says which
integers stay integers; a numeral beyond them, or with a fraction or an exponent, is the nearest
number of double precision, and one beyond those is refused.

Each function takes the characters that are left and gives back those that follow what it read.
-/
namespace ArrayScene.Json

/-- The integers that are read as such: the words of 64 bits, signed or unsigned, or all. -/
inductive IntegerRange where
  | word
  | unbounded
  deriving DecidableEq, Repr

/-- Whether a numeral without fraction and exponent is read as an integer. -/
def IntegerRange.holds (range : IntegerRange) (n : Int) : Bool :=
  match range with
  | .word => -0x8000000000000000 ≤ n && n < 0x10000000000000000
  | .unbounded => true

/-- The blanks between tokens. -/
def isGap (c : Char) : Bool := c == ' ' || c == '\n' || c == '\r' || c == '\t'

def skipGap (cs : List Char) : List Char := cs.dropWhile isGap

/-- The value of a hexadecimal digit of either case. -/
def hexValue? (c : Char) : Option Nat :=
  let n := c.toNat
  if 48 ≤ n ∧ n ≤ 57 then some (n - 48)
  else if 97 ≤ n ∧ n ≤ 102 then some (n - 87)
  else if 65 ≤ n ∧ n ≤ 70 then some (n - 55)
  else none

/-- The value of four hexadecimal digits. -/
def hexUnit? (a b c d : Char) : Option Nat := do
  let a ← hexValue? a
  let b ← hexValue? b
  let c ← hexValue? c
  let d ← hexValue? d
  some (((a * 16 + b) * 16 + c) * 16 + d)

/-- The character of a single-letter escape. -/
def letterEscape? (c : Char) : Option Char :=
  if c = '"' then some '"'
  else if c = '\\' then some '\\'
  else if c = '/' then some '/'
  else if c = 'b' then some (Char.ofNat 8)
  else if c = 'f' then some (Char.ofNat 12)
  else if c = 'n' then some '\n'
  else if c = 'r' then some '\r'
  else if c = 't' then some '\t'
  else none

/-- The characters of a string up to its closing quote. Two escaped surrogates, a high one and a
low one, are one character. -/
def stringBody : List Char → Option (List Char × List Char)
  | [] => none
  | '"' :: rest => some ([], rest)
  | '\\' :: 'u' :: a :: b :: c :: d :: rest =>
    match hexUnit? a b c d with
    | none => none
    | some u =>
      if u < 0xD800 ∨ 0xDFFF < u then
        (stringBody rest).map fun (cs, after) => (Char.ofNat u :: cs, after)
      else if 0xDBFF < u then none
      else match rest with
        | '\\' :: 'u' :: a :: b :: c :: d :: rest =>
          match hexUnit? a b c d with
          | none => none
          | some l =>
            if 0xDC00 ≤ l ∧ l ≤ 0xDFFF then
              (stringBody rest).map fun (cs, after) =>
                (Char.ofNat (0x10000 + (u - 0xD800) * 0x400 + (l - 0xDC00)) :: cs, after)
            else none
        | _ => none
  | '\\' :: e :: rest =>
    match letterEscape? e with
    | none => none
    | some c => (stringBody rest).map fun (cs, after) => (c :: cs, after)
  | c :: rest =>
    if c.toNat < 32 ∨ c = '\\' then none
    else (stringBody rest).map fun (cs, after) => (c :: cs, after)

/-- A run of decimal digits, which may be empty. -/
def digitRun (cs : List Char) : List Char × List Char :=
  (cs.takeWhile Char.isDigit, cs.dropWhile Char.isDigit)

/-- A minus sign, if there is one. -/
def minusSign (cs : List Char) : Bool × List Char :=
  match cs with
  | '-' :: rest => (true, rest)
  | _ => (false, cs)

/-- The digits of a fraction, or none at a point without digits. -/
def fraction? (cs : List Char) : Option (List Char × List Char) :=
  match cs with
  | '.' :: rest =>
    let (ds, rest) := digitRun rest
    if ds.isEmpty then none else some (ds, rest)
  | _ => some ([], cs)

/-- The power of ten after an exponent mark, or none at a mark without digits. -/
def exponent? (cs : List Char) : Option (Option Int × List Char) :=
  match cs with
  | c :: rest =>
    if c = 'e' ∨ c = 'E' then
      let (negative, rest) := match rest with
        | '-' :: rest => (true, rest)
        | '+' :: rest => (false, rest)
        | _ => (false, rest)
      let (ds, rest) := digitRun rest
      if ds.isEmpty then none else some (some (Decimal.signed negative (Decimal.value ds)), rest)
    else some (none, cs)
  | [] => some (none, [])

/-- A numeral. -/
def number (range : IntegerRange) (cs : List Char) : Option (Value × List Char) := do
  let (negative, cs) := minusSign cs
  let (whole, cs) := digitRun cs
  if whole.isEmpty ∨ (whole.head? = some '0' ∧ 1 < whole.length) then none
  else
    let (decimals, cs) ← fraction? cs
    let (power, cs) ← exponent? cs
    let n := Decimal.signed negative (Decimal.value whole)
    if decimals.isEmpty ∧ power.isNone ∧ range.holds n then some (.int n, cs)
    else
      let digits := Decimal.value (whole ++ decimals)
      let x ← Binary64.ofDecimal negative digits (power.getD 0 - decimals.length)
      some (.real x, cs)

mutual

/-- A value; the first argument bounds the number of nested calls. -/
def value (range : IntegerRange) : Nat → List Char → Option (Value × List Char)
  | 0, _ => none
  | n + 1, cs =>
    match cs with
    | 'n' :: 'u' :: 'l' :: 'l' :: rest => some (.null, rest)
    | 't' :: 'r' :: 'u' :: 'e' :: rest => some (.bool true, rest)
    | 'f' :: 'a' :: 'l' :: 's' :: 'e' :: rest => some (.bool false, rest)
    | '"' :: rest => (stringBody rest).map fun (s, rest) => (.str (String.ofList s), rest)
    | '[' :: rest =>
      match skipGap rest with
      | ']' :: rest => some (.arr [], rest)
      | cs =>
        match value range n cs with
        | none => none
        | some (v, cs) =>
          (itemsTail range n (skipGap cs)).map fun (vs, cs) => (.arr (v :: vs), cs)
    | '{' :: rest =>
      match skipGap rest with
      | '}' :: rest => some (.obj [], rest)
      | cs =>
        match field range n cs with
        | none => none
        | some (p, cs) =>
          (fieldsTail range n (skipGap cs)).map fun (ps, cs) =>
            (.obj (ofAssignments (p :: ps)), cs)
    | cs => number range cs

/-- The items of an array after one has been read, and its closing bracket. -/
def itemsTail (range : IntegerRange) : Nat → List Char → Option (List Value × List Char)
  | 0, _ => none
  | n + 1, cs =>
    match cs with
    | ']' :: rest => some ([], rest)
    | ',' :: rest =>
      match value range n (skipGap rest) with
      | none => none
      | some (v, cs) => (itemsTail range n (skipGap cs)).map fun (vs, cs) => (v :: vs, cs)
    | _ => none

/-- A key and its value. -/
def field (range : IntegerRange) : Nat → List Char → Option ((String × Value) × List Char)
  | 0, _ => none
  | n + 1, cs =>
    match cs with
    | '"' :: rest =>
      match stringBody rest with
      | none => none
      | some (k, cs) =>
        match skipGap cs with
        | ':' :: rest =>
          (value range n (skipGap rest)).map fun (v, cs) => ((String.ofList k, v), cs)
        | _ => none
    | _ => none

/-- The fields of an object after one has been read, and its closing brace. -/
def fieldsTail (range : IntegerRange) :
    Nat → List Char → Option (List (String × Value) × List Char)
  | 0, _ => none
  | n + 1, cs =>
    match cs with
    | '}' :: rest => some ([], rest)
    | ',' :: rest =>
      match field range n (skipGap rest) with
      | none => none
      | some (p, cs) => (fieldsTail range n (skipGap cs)).map fun (ps, cs) => (p :: ps, cs)
    | _ => none

end

/-- The value that a text holds, if it is JSON. -/
def read (range : IntegerRange) (text : String) : Option Value :=
  let cs := text.toList
  match value range (2 * cs.length + 2) (skipGap cs) with
  | some (v, rest) => if skipGap rest = [] then some v else none
  | none => none

/-- The value that the content of a file holds, if it is JSON in UTF-8. -/
def readBytes (bytes : ByteArray) : Option Value :=
  (String.fromUTF8? bytes).bind (read .word)

end ArrayScene.Json

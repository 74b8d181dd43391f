import ArrayScene.Decimal.Integer
import ArrayScene.Json.Value
import ArrayScene.Text.Blank
import ArrayScene.Text.Pieces

/-!
# Scalars of a settings file

What an unquoted word stands for: null, a truth value, an integer in base 2, 8, 10, 16 or 60, a
number with a point, or itself. Words that stand for something else are not read: dates, numbers in
base 60 with a point, infinities and what is no number, the marks `=` and `<<`, and numbers that are
too long or have no finite value.
-/
namespace ArrayScene.Yaml

def nullWords : List String := ["", "~", "null", "Null", "NULL"]

def trueWords : List String := ["yes", "Yes", "YES", "true", "True", "TRUE", "on", "On", "ON"]

def falseWords : List String :=
  ["no", "No", "NO", "false", "False", "FALSE", "off", "Off", "OFF"]

/-- The value of a digit in bases up to sixteen. -/
def digitValue (c : Char) : Nat :=
  if c.isDigit then c.toNat - 48
  else if 'a' ≤ c ∧ c ≤ 'f' then c.toNat - 87
  else if 'A' ≤ c ∧ c ≤ 'F' then c.toNat - 55
  else 16

/-- The value of digits in a base, if all are digits of it. -/
def inBase? (base : Nat) (cs : List Char) : Option Nat :=
  if cs.all (fun c => digitValue c < base) then
    some (cs.foldl (fun n c => n * base + digitValue c) 0)
  else none

/-- The digits between colons, read in base 60; all groups but the first are below 60, and only that
one may have underscores. -/
def sexagesimal? : List (List Char) → Option Nat
  | first :: groups =>
    let group? (cs : List Char) : Option Nat :=
      if cs.isEmpty ∨ 2 < cs.length then none
      else (inBase? 10 cs).filter (· < 60)
    groups.foldlM (fun n cs => (group? cs).map fun m => n * 60 + m) =<<
      inBase? 10 (first.filter (· ≠ '_'))
  | [] => none

/-- The magnitude of an integer numeral, which may have underscores after its first digit. -/
def magnitude? (cs : List Char) : Option Nat :=
  match cs with
  | '0' :: 'b' :: ds => if ds.isEmpty then none else inBase? 2 (ds.filter (· ≠ '_'))
  | '0' :: 'x' :: ds => if ds.isEmpty then none else inBase? 16 (ds.filter (· ≠ '_'))
  | '0' :: ds => inBase? 8 (ds.filter (· ≠ '_'))
  | c :: _ =>
    if '1' ≤ c ∧ c ≤ '9' then sexagesimal? (Text.pieces ':' cs) else none
  | [] => none

def integer? (cs : List Char) : Option Int :=
  let (negative, cs) := Decimal.splitSign cs
  (magnitude? cs).map (Decimal.signed negative)

/-- The exponent of a number with a point, which has a sign. -/
def exponent? (cs : List Char) : Option Int :=
  match cs with
  | [] => some 0
  | e :: '-' :: ds =>
    if (e = 'e' ∨ e = 'E') ∧ ds ≠ [] then (inBase? 10 ds).map (Decimal.signed true) else none
  | e :: '+' :: ds =>
    if (e = 'e' ∨ e = 'E') ∧ ds ≠ [] then (inBase? 10 ds).map (Decimal.signed false) else none
  | _ => none

/-- The value of a number with a point, if it is finite. A sign needs a digit before the point. -/
def real? (cs : List Char) : Option (Option Binary64) := do
  let signed := cs.head? == some '-' || cs.head? == some '+'
  let (negative, cs) := Decimal.splitSign cs
  let isPlace (c : Char) : Bool := c.isDigit || c == '_'
  let whole := cs.takeWhile isPlace
  match cs.dropWhile isPlace with
  | '.' :: rest =>
    let decimals := rest.takeWhile isPlace
    let power ← exponent? (rest.dropWhile isPlace)
    let ds := whole.filter (· ≠ '_')
    let fs := decimals.filter (· ≠ '_')
    let sound := if whole.isEmpty then !signed && decimals.head?.any Char.isDigit else
      whole.head?.any Char.isDigit
    if sound then
      some (Binary64.ofDecimal negative (Decimal.value (ds ++ fs)) (power - fs.length))
    else none
  | _ => none

/-- Whether a word is a date, alone or with a time behind it. -/
def isDate (cs : List Char) : Bool :=
  let year := cs.takeWhile Char.isDigit
  match cs.dropWhile Char.isDigit with
  | '-' :: cs =>
    let month := cs.takeWhile Char.isDigit
    match cs.dropWhile Char.isDigit with
    | '-' :: cs =>
      let day := cs.takeWhile Char.isDigit
      let time := cs.dropWhile Char.isDigit
      let short (ds : List Char) : Bool := ds.length == 1 || ds.length == 2
      year.length == 4 && short month && short day &&
        match time with
        | [] => month.length == 2 && day.length == 2
        | c :: rest => (c == 'T' || c == 't' || c == ' ') &&
          (rest.dropWhile (· == ' ')).head?.any Char.isDigit
    | _ => false
  | _ => false

/-- Whether a word is a number in base 60 with a point. -/
def isTimed (cs : List Char) : Bool :=
  let cs := (Decimal.splitSign cs).2
  let whole := cs.takeWhile (· ≠ '.')
  cs.head?.any Char.isDigit && whole.contains ':' &&
    (sexagesimal? (Text.pieces ':' whole)).isSome &&
    match cs.dropWhile (· ≠ '.') with
    | _ :: rest => rest.all fun c => c.isDigit || c == '_'
    | [] => false

/-- Whether a word is the mark of a base with underscores alone behind it. -/
def lacksDigits (cs : List Char) : Bool :=
  match (Decimal.splitSign cs).2 with
  | '0' :: base :: rest => (base == 'b' || base == 'x') && !rest.isEmpty && rest.all (· == '_')
  | _ => false

/-- The words that stand for what is not read. -/
def foreignWords : List String :=
  ["=", "<<", ".inf", ".Inf", ".INF", "-.inf", "-.Inf", "-.INF", "+.inf", "+.Inf", "+.INF", ".nan",
    ".NaN", ".NAN"]

/-- The value of an unquoted word, unless it stands for what is not read. -/
def scalar (cs : List Char) : Option Json.Value :=
  let word := String.ofList cs
  if word ∈ nullWords then some .null
  else if word ∈ trueWords then some (.bool true)
  else if word ∈ falseWords then some (.bool false)
  else if word ∈ foreignWords ∨ isDate cs ∨ isTimed cs ∨ lacksDigits cs then none
  else match integer? cs with
    | some n => if Decimal.digitCount n ≤ Decimal.digitLimit then some (.int n) else none
    | none =>
      match real? cs with
      | some x => x.map .real
      | none => some (.str word)

end ArrayScene.Yaml

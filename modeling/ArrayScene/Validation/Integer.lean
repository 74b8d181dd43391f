import ArrayScene.Text.Blank
import ArrayScene.Validation.Fault

/-!
# Positive integers

A size may be given as an integer of any length, as a truth value, as a number without a
fractional part or as the numeral of an integer. `numeral?` reads the numerals: blanks around them
do not count, a sign may stand in front, single underscores may stand between digits, and a point
may be followed by zeros. Zeros in front of the first other digit are passed over with all their
underscores, but a minus sign behind them makes no numeral. What is left may have as many digits as
`digitLimit` says, a minus sign counting as one.
-/
namespace ArrayScene.Validation

/-- The value of a decimal digit. -/
def decimalDigit? (c : Char) : Option Nat :=
  if c.isDigit then some (c.toNat - 48) else none

/-- Digits with single underscores between them, read on from the value so far; `opened` says that
an underscore or nothing came before, so that a digit has to follow. -/
def digitsFrom (digit? : Char → Option Nat) (opened : Bool) (total : Nat) :
    List Char → Option Nat
  | [] => if opened then none else some total
  | c :: rest =>
    match digit? c with
    | some d => digitsFrom digit? false (10 * total + d) rest
    | none => if c = '_' ∧ opened = false then digitsFrom digit? true total rest else none

/-- The value of a run of digits with single underscores between them. -/
def digits? (digit? : Char → Option Nat) (cs : List Char) : Option Nat :=
  digitsFrom digit? true 0 cs

/-- A numeral without a point followed by zeros, if that is how it ends. -/
def withoutZeroFraction (cs : List Char) : List Char :=
  match (cs.reverse.dropWhile (· == '0')) with
  | '.' :: whole => if cs.getLast? = some '0' then whole.reverse else cs
  | _ => cs

/-- A numeral from its first digit on that is no zero; one of zeros alone is left with its last
character. -/
def withoutLeadingZeros (cs : List Char) : List Char :=
  match cs with
  | '0' :: rest =>
    match rest.dropWhile fun c => c == '0' || c == '_' with
    | [] => cs.getLast?.toList
    | kept => kept
  | _ => cs

/-- Whether digits with underscores between them are more than may be read with a sign. -/
def exceedsLimit (negative : Bool) (cs : List Char) : Bool :=
  Decimal.digitLimit < (cs.filter (· ≠ '_')).length + if negative then 1 else 0

/-- The integer of a numeral. -/
def numeral? (text : String) : Option Int :=
  let (negative, cs) := Decimal.splitSign (Text.trim Text.isWhiteSpace text.toList)
  let ds := withoutLeadingZeros (withoutZeroFraction cs)
  if exceedsLimit negative ds then none
  else (digits? decimalDigit? ds).map (Decimal.signed negative)

/-- Whether a text begins, after a minus sign or without one, with a digit that is no zero and more
of them than may be read. Such a text is refused for its length, whatever follows. -/
def isOverlong (cs : List Char) : Bool :=
  let negative := cs.head? == some '-'
  let ds := if negative then cs.tail else cs
  ds.head? != some '0' && exceedsLimit negative (ds.takeWhile Char.isDigit)

/-- The integer that a value stands for. -/
def integer : Json.Value → Except Cause Int
  | .int n => .ok n
  | .bool b => .ok (if b then 1 else 0)
  | .real x =>
    match x.toInt? with
    | none => .error .fractional
    | some n =>
      if -0x8000000000000000 < n ∧ n < 0x8000000000000000 then .ok n else .error .tooLarge
  | .str s =>
    if isOverlong s.toList then .error .tooLarge
    else match numeral? s with
      | some n => .ok n
      | none => .error .notNumeral
  | _ => .error .notInteger

/-- The positive integer that a value stands for. -/
def positiveInteger (place : List String) (v : Json.Value) : Checked Int :=
  match integer v with
  | .error cause => refuse cause place v
  | .ok n => if 0 < n then .ok n else refuse .notPositive place v

theorem positiveInteger_pos {place : List String} {v : Json.Value} {n : Int}
    (h : positiveInteger place v = .ok n) : 0 < n := by
  unfold positiveInteger at h
  split at h
  · simp [refuse] at h
  · split at h
    · cases h; assumption
    · simp [refuse] at h

end ArrayScene.Validation

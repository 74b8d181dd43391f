import ArrayScene.Decimal.Binary64

/-!
# Shortest decimal text

The text of a double precision number has the fewest digits that read back as the number, of those
the nearest to it, and of two as near the even ones. `DecimalStyle` says how the digits are laid
out: messages and files differ in where positional notation ends and in how an exponent is written.
-/
namespace ArrayScene

/-- How a number is laid out. -/
structure DecimalStyle where
  /-- The least decimal exponent that is written positionally. -/
  least : Int
  /-- The decimal exponent from which the scientific form is used. -/
  limit : Int
  /-- Whether a positive exponent has a plus sign. -/
  plusSign : Bool
  /-- The least number of digits of an exponent. -/
  exponentDigits : Nat
  deriving DecidableEq, Repr

namespace DecimalStyle

/-- Numbers in messages. -/
def message : DecimalStyle := ⟨-4, 16, true, 2⟩

/-- Numbers in files. -/
def file : DecimalStyle := ⟨-5, 16, false, 1⟩

end DecimalStyle

namespace Binary64

/-- The greatest `e` with `10 ^ e ≤ num / den`, for a positive fraction. -/
def decimalExponent (num den : Nat) : Int :=
  if den ≤ num then ((Nat.toDigits 10 (num / den)).length : Int) - 1
  else
    match (List.range 400).find? fun k => den ≤ num * Nat.pow 10 (k + 1) with
    | some k => -((k : Int) + 1)
    | none => -400

/-- The bounds of the numbers that read back as `x`, and `x` itself, over one denominator: the
lower and upper end and the value. Below a power of two the neighbour is only half as far. -/
def readBack (x : Binary64) : (Nat × Nat × Nat) × Nat :=
  let low := if x.mantissa = fullMantissa ∧ leastExponent < x.exponent then 1 else 2
  let e := x.exponent - 2
  let (up, den) := if e < 0 then (1, 1 <<< e.natAbs) else (1 <<< e.natAbs, 1)
  (((4 * x.mantissa - low) * up, (4 * x.mantissa + 2) * up, 4 * x.mantissa * up), den)

/-- The digits of the point of the grid of `count` digits that reads back as `x` and lies nearest
to it, the even one of two, with the exponent of their last place. -/
def onGrid? (x : Binary64) (count : Nat) : Option (Nat × Int) :=
  let ((low, high, mid), den) := x.readBack
  let place := decimalExponent mid den - count + 1
  let tens := Nat.pow 10 place.natAbs
  let (scale, den) := if place < 0 then (tens, den) else (1, den * tens)
  let inside (c : Nat) : Bool :=
    if x.mantissa % 2 = 0 then low * scale ≤ c * den && c * den ≤ high * scale
    else low * scale < c * den && c * den < high * scale
  let below := mid * scale / den
  let rest := mid * scale % den
  match inside below, inside (below + 1) with
  | true, true =>
    some (if 2 * rest < den ∨ (2 * rest = den ∧ below % 2 = 0) then below else below + 1, place)
  | true, false => some (below, place)
  | false, true => some (below + 1, place)
  | false, false => none

/-- The shortest digits of a positive number and the exponent of their last place. -/
def shortest (x : Binary64) : Nat × Int :=
  ((List.range 17).findSome? fun k => x.onGrid? (k + 1)).getD (x.mantissa, 0)

/-- Digits without the zeros at their end, and the place of the new last digit. -/
def stripZeros (ds : List Char) (place : Int) : List Char × Int :=
  let kept := (ds.reverse.dropWhile (· == '0')).reverse
  (kept, place + (ds.length - kept.length))

/-- The text of an exponent. -/
def exponentText (style : DecimalStyle) (e : Int) : List Char :=
  let ds := Nat.toDigits 10 e.natAbs
  let sign := if e < 0 then ['-'] else if style.plusSign then ['+'] else []
  'e' :: sign ++ List.replicate (style.exponentDigits - ds.length) '0' ++ ds

/-- Digits laid out around the decimal point; `e` is the decimal exponent of the first one. -/
def layout (style : DecimalStyle) (ds : List Char) (e : Int) : List Char :=
  if e < style.least ∨ style.limit ≤ e then
    ds.take 1 ++ (if ds.length ≤ 1 then [] else '.' :: ds.drop 1) ++ exponentText style e
  else if e < 0 then '0' :: '.' :: List.replicate (e.natAbs - 1) '0' ++ ds
  else
    let whole := e.natAbs + 1
    let padded := ds ++ List.replicate (whole + 1 - ds.length) '0'
    padded.take whole ++ '.' :: padded.drop whole

/-- The text of a number. -/
def text (style : DecimalStyle) (x : Binary64) : List Char :=
  let sign := if x.negative then ['-'] else []
  if x.mantissa = 0 then sign ++ ['0', '.', '0']
  else
    let (n, place) := x.shortest
    let (ds, place) := stripZeros (Nat.toDigits 10 n) place
    sign ++ layout style ds (place + ds.length - 1)

end Binary64

end ArrayScene

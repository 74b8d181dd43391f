/-!
# Double precision numbers

A finite number of the binary64 format, held as a sign, a whole mantissa and a power of two, so
that every question about it is one of whole numbers. `ofDecimal` rounds a decimal numeral to the
nearest such number, a tie going to the even mantissa.
-/
namespace ArrayScene

/-- The number `± mantissa · 2 ^ exponent`. A mantissa has at most 53 bits; it has all of them
unless the exponent is the least one, -1074. -/
structure Binary64 where
  negative : Bool
  mantissa : Nat
  exponent : Int
  deriving DecidableEq, Repr

namespace Binary64

/-- The least mantissa of full precision. -/
def fullMantissa : Nat := 0x10000000000000

/-- The least exponent of the format. -/
def leastExponent : Int := -1074

/-- The greatest exponent of the format. -/
def greatestExponent : Int := 971

def zero (negative : Bool) : Binary64 := ⟨negative, 0, leastExponent⟩

/-- The quotient of two numbers rounded to the nearest whole number, a tie to the even one. -/
def roundedQuotient (num den : Nat) : Nat :=
  let q := num / den
  let r := num % den
  if 2 * r < den then q
  else if den < 2 * r then q + 1
  else if q % 2 = 0 then q else q + 1

/-- The fraction `num / (den · 2 ^ e)` as a pair of whole numbers. -/
def scaled (num den : Nat) (e : Int) : Nat × Nat :=
  if e < 0 then (num <<< e.natAbs, den) else (num, den <<< e.natAbs)

/-- The number nearest to a positive fraction; none beyond the greatest number. -/
def ofFraction (negative : Bool) (num den : Nat) : Option Binary64 :=
  let guess := max ((num.log2 : Int) - den.log2 - 53) leastExponent
  let (n₀, d₀) := scaled num den guess
  let e := if 2 * fullMantissa ≤ n₀ / d₀ then guess + 1 else guess
  let (n, d) := scaled num den e
  let m := roundedQuotient n d
  let (m, e) := if m = 2 * fullMantissa then (fullMantissa, e + 1) else (m, e)
  if e ≤ greatestExponent then some ⟨negative, m, e⟩ else none

/-- The number nearest to `± digits · 10 ^ exponent`; none beyond the greatest number. -/
def ofDecimal (negative : Bool) (digits : Nat) (exponent : Int) : Option Binary64 :=
  let length : Int := (Nat.toDigits 10 digits).length
  if digits = 0 ∨ length + exponent < -400 then some (zero negative)
  else if 400 < length + exponent then none
  else if exponent < 0 then ofFraction negative digits (Nat.pow 10 exponent.natAbs)
  else ofFraction negative (digits * Nat.pow 10 exponent.natAbs) 1

/-- The whole number that a number is, if it has no fractional part. -/
def toInt? (x : Binary64) : Option Int :=
  let sign : Nat → Int := fun n => if x.negative then -(n : Int) else n
  if x.exponent < 0 then
    let unit := 1 <<< x.exponent.natAbs
    if x.mantissa % unit = 0 then some (sign (x.mantissa / unit)) else none
  else some (sign (x.mantissa <<< x.exponent.natAbs))

end Binary64

end ArrayScene

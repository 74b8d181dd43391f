/-!
# Integers in decimal

The decimal text of an integer, and the value of a run of digits. Writing and then reading gives
the number back, so two integers with one text are equal.
-/
namespace ArrayScene.Decimal

/-- The decimal text of an integer: a minus sign if it is negative, and no leading zero. -/
def ofInt : Int → List Char
  | .ofNat n => Nat.toDigits 10 n
  | .negSucc n => '-' :: Nat.toDigits 10 (n + 1)

/-- How many digits an integer has. -/
def digitCount (n : Int) : Nat := (Nat.toDigits 10 n.natAbs).length

/-- The most digits that an integer may have where it is read from a text or printed in one. -/
def digitLimit : Nat := 4300

/-- The value of a run of decimal digits. -/
def value (ds : List Char) : Nat := Nat.ofDigitChars 10 ds 0

/-- The integer with a sign and a magnitude. -/
def signed (negative : Bool) (magnitude : Nat) : Int :=
  if negative then -(magnitude : Int) else magnitude

/-- Whether a minus sign stands in front, and what follows the sign; a plus sign may stand there
too. -/
def splitSign (cs : List Char) : Bool × List Char :=
  match cs with
  | '-' :: rest => (true, rest)
  | '+' :: rest => (false, rest)
  | _ => (false, cs)

@[simp] theorem value_toDigits (n : Nat) : value (Nat.toDigits 10 n) = n :=
  Nat.ofDigitChars_ten_toDigits

theorem isDigit_of_mem_toDigits {c : Char} {n : Nat} (h : c ∈ Nat.toDigits 10 n) :
    c.isDigit = true :=
  Nat.isDigit_of_mem_toDigits (by decide) (by decide) h

end ArrayScene.Decimal

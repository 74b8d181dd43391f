import ArrayScene.Json.Reader
import ArrayScene.Json.Writer
import Mathlib.Data.List.Basic

/-!
# Integers read back

The decimal text of an integer has no leading zero, no point and no exponent, so the reader takes
all of it and nothing more for one numeral, as long as what follows cannot lengthen a numeral.
-/
namespace ArrayScene.Json

/-- What follows a value in a document: nothing, a comma, or the end of its line. -/
def EndsValue (rest : List Char) : Prop := ∀ c ∈ rest.head?, c = ',' ∨ c = '\n'

theorem endsValue_nil : EndsValue [] := nofun

theorem endsValue_comma (rest : List Char) : EndsValue (',' :: rest) := by
  simp [EndsValue]

theorem endsValue_newLine (depth : Nat) (rest : List Char) :
    EndsValue (newLine depth ++ rest) := by
  simp [EndsValue, newLine]

theorem digitRun_append {ds rest : List Char} (digits : ∀ c ∈ ds, c.isDigit = true)
    (ends : EndsValue rest) : digitRun (ds ++ rest) = (ds, rest) := by
  rw [digitRun, List.takeWhile_append_of_pos digits, List.dropWhile_append_of_pos digits]
  cases rest with
  | nil => simp
  | cons c rest =>
    have stops : c.isDigit = false := by
      rcases ends c rfl with rfl | rfl <;> decide
    simp [stops]

theorem fraction?_of_ends {rest : List Char} (ends : EndsValue rest) :
    fraction? rest = some ([], rest) := by
  cases rest with
  | nil => rfl
  | cons c rest => rcases ends c rfl with rfl | rfl <;> rfl

theorem exponent?_of_ends {rest : List Char} (ends : EndsValue rest) :
    exponent? rest = some (none, rest) := by
  cases rest with
  | nil => rfl
  | cons c rest => rcases ends c rfl with rfl | rfl <;> rfl

/-- Only the number zero has a zero as its first digit. -/
theorem eq_zero_of_head?_toDigits {n : Nat} (leading : (Nat.toDigits 10 n).head? = some '0') :
    n = 0 := by
  have one_digit : ∀ d < 10, [Nat.digitChar d].head? = some '0' → d = 0 := by decide
  induction n using Nat.strongRecOn with
  | ind n ih =>
    by_cases small : n < 10
    · rw [Nat.toDigits_of_lt_base small] at leading
      exact one_digit n small leading
    · rw [Nat.toDigits_of_base_le (by decide) (by omega),
        List.head?_append_of_ne_nil _ Nat.toDigits_ne_nil] at leading
      have tenth := ih (n / 10) (by omega) leading
      omega

/-- The text of a natural number has no leading zero. -/
theorem no_leading_zero (n : Nat) :
    ¬((Nat.toDigits 10 n).isEmpty = true ∨
      (Nat.toDigits 10 n).head? = some '0' ∧ 1 < (Nat.toDigits 10 n).length) := by
  rintro (empty | ⟨leading, long⟩)
  · exact Nat.toDigits_ne_nil (List.isEmpty_iff.mp empty)
  · rw [eq_zero_of_head?_toDigits leading, Nat.toDigits_zero] at long
    exact absurd long (by decide)

/-- A sign and the digits of a natural number are read as one integer. -/
theorem number_signed (negative : Bool) (n : Nat) {cs rest : List Char}
    (sign : minusSign cs = (negative, Nat.toDigits 10 n ++ rest))
    (range : IntegerRange.word.holds (Decimal.signed negative n) = true) (ends : EndsValue rest) :
    number .word cs = some (.int (Decimal.signed negative n), rest) := by
  have digits : digitRun (Nat.toDigits 10 n ++ rest) = (Nat.toDigits 10 n, rest) :=
    digitRun_append (fun _ => Decimal.isDigit_of_mem_toDigits) ends
  simp only [number, sign, digits, if_neg (no_leading_zero n), fraction?_of_ends ends,
    Option.bind_eq_bind, Option.bind_some, exponent?_of_ends ends, Decimal.value_toDigits]
  exact if_pos ⟨rfl, rfl, range⟩

theorem minusSign_digits (n : Nat) (rest : List Char) :
    minusSign (Nat.toDigits 10 n ++ rest) = (false, Nat.toDigits 10 n ++ rest) := by
  obtain ⟨c, cs, digits⟩ := List.exists_cons_of_ne_nil (Nat.toDigits_ne_nil (n := n) (b := 10))
  have digit : c.isDigit = true :=
    Decimal.isDigit_of_mem_toDigits (digits ▸ List.mem_cons_self)
  rw [digits, List.cons_append, minusSign]
  intro _ same
  cases same
  exact absurd digit (by decide)

/-- The text of an integer of 64 bits is read as that integer. -/
theorem number_ofInt {n : Int} {rest : List Char} (range : inWordRange n = true)
    (ends : EndsValue rest) : number .word (Decimal.ofInt n ++ rest) = some (.int n, rest) := by
  cases n with
  | ofNat n => exact number_signed false n (minusSign_digits n rest) range ends
  | negSucc n => exact number_signed true (n + 1) rfl range ends

/-- The text of an integer begins with a minus sign or a digit. -/
theorem ofInt_head (n : Int) :
    ∃ c cs, Decimal.ofInt n = c :: cs ∧ (c = '-' ∨ c.isDigit = true) := by
  cases n with
  | ofNat n =>
    obtain ⟨c, cs, digits⟩ := List.exists_cons_of_ne_nil (Nat.toDigits_ne_nil (n := n) (b := 10))
    exact ⟨c, cs, digits, .inr (Decimal.isDigit_of_mem_toDigits (digits ▸ List.mem_cons_self))⟩
  | negSucc n => exact ⟨_, _, rfl, .inl rfl⟩

end ArrayScene.Json

import ArrayScene.Console.Outline
import ArrayScene.Proofs.Json.Numerals
import ArrayScene.Proofs.Json.ReadBack
import ArrayScene.Proofs.Source.Description
import Mathlib.Data.List.TakeWhile

/-!
# Sizes given as texts

A size that is given as its decimal text is read as the integer that it is, if it has no more digits
than may be read. So a request can have sizes that no integer of a document can be, and their
product can have more digits than may be printed.
-/
namespace ArrayScene

namespace Validation

variable {ds : List Char}

/-! ### Runs of digits

None of what is taken off a numeral before its digits are read is there in a run of digits whose
first is no zero. -/

section Run

variable (digits : ∀ c ∈ ds, c.isDigit = true)
include digits

theorem not_mem_of_digits {c : Char} (other : c.isDigit = false) : c ∉ ds :=
  fun member => Bool.false_ne_true (other.symm.trans (digits c member))

theorem dropWhile_isWhiteSpace_of_digits : ds.dropWhile Text.isWhiteSpace = ds := by
  cases ds with
  | nil => rfl
  | cons c rest =>
    have range : 48 ≤ c.toNat ∧ c.toNat ≤ 57 :=
      Char.isDigit_iff_toNat.mp (digits c List.mem_cons_self)
    have solid : Text.isWhiteSpace c = false := by
      simp only [Text.isWhiteSpace, Bool.or_eq_false_iff, Bool.and_eq_false_iff,
        decide_eq_false_iff_not, beq_eq_false_iff_ne]
      omega
    rw [List.dropWhile_cons_of_neg (by simp [solid])]

theorem trim_of_digits : Text.trim Text.isWhiteSpace ds = ds := by
  have reversed : ∀ c ∈ ds.reverse, c.isDigit = true := by simpa using digits
  rw [Text.trim, dropWhile_isWhiteSpace_of_digits digits, dropWhile_isWhiteSpace_of_digits reversed,
    List.reverse_reverse]

theorem splitSign_of_digits : Decimal.splitSign ds = (false, ds) := by
  unfold Decimal.splitSign
  split
  · exact absurd List.mem_cons_self (not_mem_of_digits digits (by decide))
  · exact absurd List.mem_cons_self (not_mem_of_digits digits (by decide))
  · rfl

theorem withoutZeroFraction_of_digits : withoutZeroFraction ds = ds := by
  unfold withoutZeroFraction
  split
  · rename_i whole point
    have member : '.' ∈ ds.reverse :=
      (List.dropWhile_sublist _).subset (point ▸ List.mem_cons_self)
    exact absurd (List.mem_reverse.mp member) (not_mem_of_digits digits (by decide))
  · rfl

/-- Digits are read on from a value as the digits of a number are. -/
theorem digitsFrom_of_digits {opened : Bool} (more : opened = true → ds ≠ []) (total : Nat) :
    digitsFrom decimalDigit? opened total ds = some (Nat.ofDigitChars 10 ds total) := by
  induction ds generalizing opened total with
  | nil =>
    cases opened with
    | false => rfl
    | true => exact absurd rfl (more rfl)
  | cons c rest ih =>
    rw [List.forall_mem_cons] at digits
    have digit : decimalDigit? c = some (c.toNat - 48) := if_pos digits.1
    rw [digitsFrom, digit, Nat.ofDigitChars_cons]
    show digitsFrom decimalDigit? false (10 * total + (c.toNat - 48)) rest = _
    apply ih digits.2
    intro wrong
    cases wrong

end Run

theorem exceedsLimit_of_length_le (short : ds.length ≤ Decimal.digitLimit) :
    exceedsLimit false ds = false := by
  have fewer : (ds.filter (· ≠ '_')).length ≤ ds.length := List.length_filter_le _ ds
  simp only [exceedsLimit, decide_eq_false_iff_not]
  simp only [Bool.false_eq_true, if_false]
  omega

theorem withoutLeadingZeros_of_head (leading : ds.head? ≠ some '0') :
    withoutLeadingZeros ds = ds := by
  unfold withoutLeadingZeros
  split
  · exact absurd rfl leading
  · rfl

/-- The digits of a positive number, few enough to be read, are read as that number. -/
theorem integer_digits {n : Nat} (positive : 0 < n)
    (short : (Nat.toDigits 10 n).length ≤ Decimal.digitLimit) :
    integer (.str (String.ofList (Nat.toDigits 10 n))) = .ok (n : Int) := by
  have digits : ∀ c ∈ Nat.toDigits 10 n, c.isDigit = true :=
    fun _ => Decimal.isDigit_of_mem_toDigits
  have leading : (Nat.toDigits 10 n).head? ≠ some '0' :=
    fun zero => Nat.ne_of_gt positive (Json.eq_zero_of_head?_toDigits zero)
  have value : digits? decimalDigit? (Nat.toDigits 10 n) = some n := by
    rw [digits?, digitsFrom_of_digits digits (fun _ => Nat.toDigits_ne_nil),
      Nat.ofDigitChars_ten_toDigits]
  have within := exceedsLimit_of_length_le short
  have numeral : numeral? (String.ofList (Nat.toDigits 10 n)) = some (n : Int) := by
    simp only [numeral?, String.toList_ofList, trim_of_digits digits, splitSign_of_digits digits,
      withoutZeroFraction_of_digits digits, withoutLeadingZeros_of_head leading, within, value]
    rfl
  have unsigned : ((Nat.toDigits 10 n).head? == some '-') = false := by
    rw [beq_eq_false_iff_ne]
    intro minus
    exact not_mem_of_digits digits (by decide) (List.mem_of_mem_head? minus)
  have run : (Nat.toDigits 10 n).takeWhile Char.isDigit = Nat.toDigits 10 n :=
    List.takeWhile_eq_self_iff.mpr digits
  have shortEnough : isOverlong (Nat.toDigits 10 n) = false := by
    simp only [isOverlong, unsigned, Bool.false_eq_true, if_false, run, within, Bool.and_false]
  rw [integer, String.toList_ofList, shortEnough, numeral]
  rfl

/-- A positive size may be given as its decimal text. -/
theorem describesSize_sizeText {n : Int} (positive : 0 < n)
    (short : Decimal.digitCount n ≤ Decimal.digitLimit) :
    DescribesSize (.str (Node.sizeText n)) n := by
  refine ⟨?_, positive⟩
  obtain ⟨k, rfl⟩ := Int.eq_ofNat_of_zero_le (Int.le_of_lt positive)
  exact integer_digits (Int.natCast_pos.mp positive) short

end Validation

/-- An array type whose size is given as a text. -/
def textArray (size : Int) (element : Json.Value) : Json.Value :=
  .obj [("kind", .str "array"), ("element", element), ("size", .str (Node.sizeText size))]

theorem describesType_textArray {v : Json.Value} {t : SourceType} (described : DescribesType v t)
    {n : Int} (positive : 0 < n) (short : Decimal.digitCount n ≤ Decimal.digitLimit) :
    DescribesType (textArray n v) (.array t n) :=
  .array rfl rfl described rfl (Validation.describesSize_sizeText positive short)

theorem storable_textArray {v : Json.Value} (storable : Json.Storable v) (n : Int) :
    Json.Storable (textArray n v) :=
  .obj (by simp) (by simp [storable, Json.Storable.str])

end ArrayScene

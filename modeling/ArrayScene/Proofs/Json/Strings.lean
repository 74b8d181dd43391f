import ArrayScene.Json.Reader
import ArrayScene.Json.Writer

/-!
# Quoted strings read back

Every character is written either as it is or as an escape, and the reader takes each of these
forms back to the character, so a quoted string is read up to its closing quote and no further.
-/
namespace ArrayScene.Json

theorem hexValue?_hexDigit : ∀ d < 16, hexValue? (hexDigit d) = some d := by decide

/-- The four digits of the escape of a control character. -/
theorem hexUnit?_control {n : Nat} (control : n < 32) :
    hexUnit? '0' '0' (hexDigit (n / 16)) (hexDigit (n % 16)) = some n := by
  have zero : hexValue? '0' = some 0 := by decide
  have high := hexValue?_hexDigit (n / 16) (by omega)
  have low := hexValue?_hexDigit (n % 16) (by omega)
  simp only [hexUnit?, zero, high, low, Option.bind_eq_bind, Option.bind_some, Option.some.injEq]
  omega

/-- A character that stands for itself is read as itself. -/
theorem stringBody_plain {c : Char} (quote : c ≠ '"') (backslash : c ≠ '\\') (plain : 32 ≤ c.toNat)
    (rest : List Char) :
    stringBody (c :: rest) = (stringBody rest).map fun (cs, after) => (c :: cs, after) := by
  have admitted : ¬(c.toNat < 32 ∨ c = '\\') := by
    rintro (control | same)
    · omega
    · exact backslash same
  rw [stringBody.eq_def]
  split
  · rename_i nil
    cases nil
  · rename_i same
    cases same
    exact absurd rfl quote
  · rename_i same
    cases same
    exact absurd rfl backslash
  · rename_i same
    cases same
    exact absurd rfl backslash
  · rename_i same
    cases same
    rw [if_neg admitted]

/-- A letter after a backslash is read as the character it stands for. -/
theorem stringBody_letter {e c : Char} (other : e ≠ 'u') (letter : letterEscape? e = some c)
    (rest : List Char) :
    stringBody ('\\' :: e :: rest) = (stringBody rest).map fun (cs, after) => (c :: cs, after) := by
  rw [stringBody.eq_def]
  split
  · rename_i nil
    cases nil
  · rename_i same
    cases same
  · rename_i same
    cases same
    exact absurd rfl other
  · rename_i same
    cases same
    rw [letter]
  · rename_i different same
    cases same
    exact (different _ _ rfl rfl).elim

/-- The three forms a character is written in: as a letter after a backslash, as four hexadecimal
digits, or as it is. -/
theorem escape_cases (c : Char) :
    (∃ e, e ≠ 'u' ∧ letterEscape? e = some c ∧ escape c = ['\\', e]) ∨
      (c.toNat < 32 ∧
        escape c = ['\\', 'u', '0', '0', hexDigit (c.toNat / 16), hexDigit (c.toNat % 16)]) ∨
      ((c ≠ '"' ∧ c ≠ '\\' ∧ 32 ≤ c.toNat) ∧ escape c = [c]) := by
  have named (code : Nat) (same : c.toNat = code) : c = Char.ofNat code := by
    rw [← same, Char.ofNat_toNat]
  unfold escape
  split
  · exact .inl ⟨'"', by decide, by simp [letterEscape?, *], rfl⟩
  split
  · exact .inl ⟨'\\', by decide, by simp [letterEscape?, *], rfl⟩
  split
  · exact .inl ⟨'n', by decide, by simp [letterEscape?, *], rfl⟩
  split
  · exact .inl ⟨'r', by decide, by simp [letterEscape?, *], rfl⟩
  split
  · exact .inl ⟨'t', by decide, by simp [letterEscape?, *], rfl⟩
  split
  · rename_i code
    exact .inl ⟨'b', by decide, by rw [named 8 code]; decide, rfl⟩
  split
  · rename_i code
    exact .inl ⟨'f', by decide, by rw [named 12 code]; decide, rfl⟩
  split
  · rename_i control
    exact .inr (.inl ⟨control, rfl⟩)
  · rename_i quote backslash _ _ _ _ _ plain
    exact .inr (.inr ⟨⟨quote, backslash, by omega⟩, rfl⟩)

/-- What is written for a character is read as the character. -/
theorem stringBody_escape (c : Char) (rest : List Char) :
    stringBody (escape c ++ rest) = (stringBody rest).map fun (cs, after) => (c :: cs, after) := by
  rcases escape_cases c with ⟨e, other, letter, written⟩ | ⟨control, written⟩ | ⟨plain, written⟩
  · rw [written]
    exact stringBody_letter other letter rest
  · rw [written]
    simp only [List.cons_append, List.nil_append]
    rw [stringBody, hexUnit?_control control]
    simp only
    rw [if_pos (Or.inl (by omega)), Char.ofNat_toNat]
  · rw [written]
    exact stringBody_plain plain.1 plain.2.1 plain.2.2 rest

/-- A string is read up to its closing quote. -/
theorem stringBody_escaped (cs rest : List Char) :
    stringBody (cs.flatMap escape ++ '"' :: rest) = some (cs, rest) := by
  induction cs with
  | nil => rw [List.flatMap_nil, List.nil_append, stringBody]
  | cons c cs ih =>
    rw [List.flatMap_cons, List.append_assoc, stringBody_escape, ih]
    rfl

end ArrayScene.Json

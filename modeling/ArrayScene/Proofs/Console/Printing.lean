import ArrayScene.Console.Printing

/-!
# Text around a message

A line that a command prints has a styled word in front of a path and a message. Whether it can be
printed, and why not, depends on the message alone: the styled word closes its own tag, and a path
without brackets has none. This holds on every console, whatever it makes of the words in tags.
-/
namespace ArrayScene

namespace Markup

theorem tokensAfter_tag {rest inside after : List Char} (count : Nat)
    (tag : tag? rest = some (inside, after)) :
    tokensAfter count ('[' :: rest) = .tag count inside :: tokensAfter 0 after := by
  rw [tokensAfter]
  simp only [Char.reduceEq, if_false, if_true]
  split
  · rename_i found
    rw [tag] at found
    cases found
    rfl
  · rename_i missing
    rw [tag] at missing
    cases missing

theorem tokensAfter_plain {c : Char} (backslash : c ≠ '\\') (bracket : c ≠ '[') (count : Nat)
    (rest : List Char) :
    tokensAfter count (c :: rest) =
      List.replicate count (.plain '\\') ++ .plain c :: tokensAfter 0 rest := by
  rw [tokensAfter, if_neg backslash, if_neg bracket]

theorem tokensAfter_backslash (count : Nat) (rest : List Char) :
    tokensAfter count ('\\' :: rest) = tokensAfter (count + 1) rest := by
  rw [tokensAfter, if_pos rfl]

/-- Characters without a bracket, the last of which is no backslash, are plain. -/
theorem tokensAfter_append {cs : List Char} (brackets : '[' ∉ cs) {c : Char}
    (backslash : c ≠ '\\') (bracket : c ≠ '[') (count : Nat) (rest : List Char) :
    tokensAfter count (cs ++ c :: rest) =
      List.replicate count (.plain '\\') ++ cs.map .plain ++ .plain c :: tokensAfter 0 rest := by
  induction cs generalizing count with
  | nil => simp [tokensAfter_plain backslash bracket]
  | cons d ds ih =>
    rw [List.mem_cons, not_or] at brackets
    rw [List.cons_append, List.map_cons]
    by_cases slash : d = '\\'
    · subst slash
      rw [tokensAfter_backslash, ih brackets.2, List.replicate_succ']
      simp
    · rw [tokensAfter_plain slash (Ne.symm brackets.1), ih brackets.2]
      simp

/-- Characters without a bracket are plain to their end. -/
theorem tokensAfter_eq_plain {cs : List Char} (brackets : '[' ∉ cs) (count : Nat) :
    tokensAfter count cs = List.replicate count (.plain '\\') ++ cs.map .plain := by
  induction cs generalizing count with
  | nil => rw [tokensAfter, List.map_nil, List.append_nil]
  | cons d ds ih =>
    rw [List.mem_cons, not_or] at brackets
    rw [List.map_cons]
    by_cases slash : d = '\\'
    · subst slash
      rw [tokensAfter_backslash, ih brackets.2, List.replicate_succ']
      simp
    · rw [tokensAfter_plain slash (Ne.symm brackets.1), ih brackets.2]
      simp

/-- Of characters without a bracket before a tag, the last ones may be backslashes that belong to
the tag. -/
theorem tokensAfter_before_tag {cs rest inside after : List Char} (brackets : '[' ∉ cs)
    (tag : tag? rest = some (inside, after)) (count : Nat) :
    ∃ (plain : List Char) (backslashes : Nat), tokensAfter count (cs ++ '[' :: rest) =
      plain.map .plain ++ .tag backslashes inside :: tokensAfter 0 after := by
  induction cs generalizing count with
  | nil => exact ⟨[], count, tokensAfter_tag count tag⟩
  | cons d ds ih =>
    rw [List.mem_cons, not_or] at brackets
    rw [List.cons_append]
    by_cases slash : d = '\\'
    · subst slash
      rw [tokensAfter_backslash]
      exact ih brackets.2 (count + 1)
    · obtain ⟨plain, backslashes, found⟩ := ih brackets.2 0
      refine ⟨List.replicate count '\\' ++ d :: plain, backslashes, ?_⟩
      rw [tokensAfter_plain slash (Ne.symm brackets.1), found]
      simp

/-- A token that neither opens nor closes a tag. -/
def Token.Inert : Token → Prop
  | plain _ => True
  | tag backslashes _ => backslashes % 2 = 1

theorem inert_plain (cs : List Char) : ∀ t ∈ cs.map Token.plain, t.Inert := by
  rw [List.forall_mem_map]
  intro c _
  trivial

section Check

variable {console : Console}

/-- Inert tokens leave the open tags as they are. -/
theorem styles_inert {inert : List Token} (each : ∀ t ∈ inert, t.Inert) (opened : List Tag)
    (ts : List Token) : styles console opened (inert ++ ts) = styles console opened ts := by
  induction inert with
  | nil => rfl
  | cons t inert ih =>
    rw [List.forall_mem_cons] at each
    rw [List.cons_append]
    cases t with
    | plain c =>
      rw [styles]
      exact ih each.2
    | tag backslashes inside =>
      have odd : backslashes % 2 = 1 := each.1
      rw [styles, if_pos odd]
      exact ih each.2

theorem check_inert {inert : List Token} (each : ∀ t ∈ inert, t.Inert) (ts : List Token) :
    check console (inert ++ ts) = check console ts := by
  rw [check, styles_inert each, check]

/-- With a text in front that has no bracket, and no backslash at its end, as much can be printed as
without it. -/
theorem check_append {cs : List Char} (brackets : '[' ∉ cs) {c : Char} (backslash : c ≠ '\\')
    (bracket : c ≠ '[') (rest : List Char) :
    check console (tokens (cs ++ c :: rest)) = check console (tokens rest) := by
  have plain : tokens (cs ++ c :: rest) = (cs ++ [c]).map .plain ++ tokens rest := by
    rw [tokens, tokensAfter_append brackets backslash bracket]
    simp [tokens]
  rw [plain, check_inert (inert_plain _)]

theorem check_of_no_bracket (console : Console) {cs : List Char} (brackets : '[' ∉ cs) :
    check console (tokens cs) = .ok () := by
  rw [tokens, tokensAfter_eq_plain brackets, List.replicate_zero, List.nil_append,
    ← List.append_nil (cs.map _), check_inert (inert_plain _)]
  rfl

theorem tag?_close (rest : List Char) : tag? ('/' :: ']' :: rest) = some (['/'], rest) := rfl

variable {style : String} (own : style ∈ programStyles)
include own

theorem tag?_own (after : List Char) :
    tag? (style.toList ++ ']' :: after) = some (style.toList, after) := by
  simp only [programStyles, List.mem_cons, List.not_mem_nil, or_false] at own
  rcases own with rfl | rfl | rfl | rfl <;> simp [tag?, opensTag, upToBracket]

theorem change_own (opened : List Tag) :
    change console style.toList opened = .ok (.opens ⟨style, none⟩) := by
  have name := console.styleName_of_mem style own
  simp only [programStyles, List.mem_cons, List.not_mem_nil, or_false] at own
  rcases own with rfl | rfl | rfl | rfl <;> simp [change, tagHead, tagParameters, name]

theorem closing_own : closing console ⟨style, none⟩ = .ok [⟨style, none⟩] := by
  simp only [programStyles, List.mem_cons, List.not_mem_nil, or_false] at own
  rcases own with rfl | rfl | rfl | rfl <;> simp [closing, Tag.isHandler]

theorem styles_opened (ts : List Token) :
    styles console [] (.tag 0 style.toList :: ts) = styles console [⟨style, none⟩] ts := by
  rw [styles, if_neg (by decide), change_own own]

theorem styles_closed {backslashes : Nat} (even : ¬backslashes % 2 = 1) (ts : List Token) :
    styles console [⟨style, none⟩] (.tag backslashes ['/'] :: ts) =
      (styles console [] ts).map (⟨style, none⟩ :: ·) := by
  have closes : change console ['/'] [⟨style, none⟩] = .ok (.closes ⟨style, none⟩ []) := rfl
  rw [styles, if_neg even, closes]
  simp only [closing_own own, bind, Except.bind]
  cases styles console [] ts <;> rfl

theorem readable_own : (console.styleName (Tag.words ⟨style, none⟩)).isSome = true := by
  rw [Tag.words, console.styleName_of_mem style own]
  rfl

/-- After a styled word as much can be printed as if it were not there. -/
theorem check_styled {word : List Char} (brackets : '[' ∉ word) {c : Char} (backslash : c ≠ '\\')
    (bracket : c ≠ '[') (rest : List Char) :
    check console (tokens ('[' :: (style.toList ++ ']' :: (word ++ c :: '[' :: '/' :: ']' ::
      rest)))) = check console (tokens rest) := by
  have read : tokens ('[' :: (style.toList ++ ']' :: (word ++ c :: '[' :: '/' :: ']' :: rest))) =
      .tag 0 style.toList :: ((word ++ [c]).map .plain ++ .tag 0 ['/'] :: tokens rest) := by
    rw [tokens, tokensAfter_tag 0 (tag?_own own _), tokensAfter_append brackets backslash bracket,
      tokensAfter_tag 0 (tag?_close rest)]
    simp [tokens]
  rw [read, check, styles_opened own, styles_inert (inert_plain _), styles_closed own (by decide),
    check]
  cases styles console [] (tokens rest) with
  | error fault => rfl
  | ok tags =>
    simp only [Except.map, bind, Except.bind, List.all_cons, readable_own own, Bool.true_and]

/-- Inert tokens within one style can be printed, whether its closing tag counts or is left as plain
text. -/
theorem check_within {inert : List Token} (each : ∀ t ∈ inert, t.Inert) (backslashes : Nat) :
    check console (.tag 0 style.toList :: (inert ++ [.tag backslashes ['/']])) = .ok () := by
  have opened : styles console [⟨style, none⟩] [.tag backslashes ['/']] = .ok [⟨style, none⟩] := by
    by_cases odd : backslashes % 2 = 1
    · rw [styles, if_pos odd]
      rfl
    · rw [styles_closed own odd]
      rfl
  rw [check, styles_opened own, styles_inert each, opened]
  simp only [bind, Except.bind, List.all_cons, List.all_nil, readable_own own, Bool.and_true,
    if_true]

/-- A single styled text without brackets can be printed, whatever backslashes it ends in. -/
theorem check_styled_text {text : List Char} (brackets : '[' ∉ text) :
    check console (tokens ('[' :: (style.toList ++ ']' :: (text ++ ['[', '/', ']'])))) =
      .ok () := by
  obtain ⟨plain, backslashes, read⟩ := tokensAfter_before_tag brackets (tag?_close []) 0
  rw [tokens, tokensAfter_tag 0 (tag?_own own _), read, tokensAfter]
  exact check_within own (inert_plain plain) backslashes

end Check

theorem print_ok_iff {console : Console} {text : List Char} :
    (∃ shown, print console text = .ok shown) ↔ check console (tokens text) = .ok () := by
  rw [print]
  cases check console (tokens text) <;> simp [Except.map]

end Markup

namespace Console

variable {console : Console} {text : String}

theorem line_of_check (readable : Markup.check console (Markup.tokens text.toList) = .ok ()) :
    ∃ shown, console.line text = .ok shown := by
  obtain ⟨cs, printed⟩ := Markup.print_ok_iff.mpr readable
  exact ⟨_, by rw [line, printed]⟩

/-- A text that cannot be printed has a fault in its markup. -/
theorem exists_of_line_eq_error {failure : Failure} (stuck : console.line text = .error failure) :
    ∃ fault, failure = .markup fault := by
  unfold line at stuck
  split at stuck
  · cases stuck
  · rename_i fault _
    cases stuck
    exact ⟨fault, rfl⟩

/-- What is printed ends a line, so it is not nothing. -/
theorem ne_empty_of_line {shown : String} (printed : console.line text = .ok shown) :
    shown ≠ "" := by
  unfold line at printed
  split at printed
  · cases printed
    simp
  · cases printed

end Console

end ArrayScene

import ArrayScene.Proofs.Console.Printing

/-!
# Escaped text

A text that is escaped has no tag left that counts: each of its tags stands behind an odd number of
backslashes. So an escaped text within one style can be printed whatever brackets, slashes and
backslashes it holds. The backslashes it ends in may keep the style from being closed, which nothing
objects to, but no closing tag is met without an open one.
-/
namespace ArrayScene.Markup

theorem tokensAfter_replicate (count n : Nat) (rest : List Char) :
    tokensAfter count (List.replicate n '\\' ++ rest) = tokensAfter (count + n) rest := by
  induction n generalizing count with
  | zero => rfl
  | succ n ih =>
    rw [List.replicate_succ, List.cons_append, tokensAfter_backslash, ih, Nat.add_right_comm]
    rfl

/-- A bracket that is no tag is plain, and so are the backslashes before it. -/
theorem tokensAfter_untagged {rest : List Char} (count : Nat) (untagged : tag? rest = none) :
    tokensAfter count ('[' :: rest) =
      List.replicate count (.plain '\\') ++ .plain '[' :: tokensAfter 0 rest := by
  rw [tokensAfter]
  simp only [Char.reduceEq, if_false, if_true]
  split
  · rename_i found
    rw [untagged] at found
    cases found
  · rfl

/-- What is read up to a closing bracket is read the same whatever follows the bracket. -/
theorem upToBracket_eq_some {cs inside after : List Char}
    (found : upToBracket cs = some (inside, after)) :
    cs = inside ++ ']' :: after ∧
      ∀ other, upToBracket (inside ++ ']' :: other) = some (inside, other) := by
  induction cs generalizing inside with
  | nil => cases found
  | cons c rest ih =>
    rw [upToBracket] at found
    split at found
    · rename_i close
      cases found
      exact ⟨by rw [close, List.nil_append], fun other => rfl⟩
    split at found
    · cases found
    · rename_i close bracket
      obtain ⟨⟨first, last⟩, within, same⟩ := Option.map_eq_some_iff.mp found
      cases same
      obtain ⟨text, again⟩ := ih within
      refine ⟨by rw [text, List.cons_append], fun other => ?_⟩
      rw [List.cons_append, upToBracket, if_neg close, if_neg bracket, again]
      rfl

theorem tag?_eq_some {cs inside after : List Char} (found : tag? cs = some (inside, after)) :
    cs = inside ++ ']' :: after ∧
      ∀ other, tag? (inside ++ ']' :: other) = some (inside, other) := by
  cases cs with
  | nil => cases found
  | cons c rest =>
    rw [tag?] at found
    split at found
    · rename_i opens
      obtain ⟨⟨first, last⟩, within, same⟩ := Option.map_eq_some_iff.mp found
      cases same
      obtain ⟨text, again⟩ := upToBracket_eq_some within
      refine ⟨by rw [text, List.cons_append], fun other => ?_⟩
      rw [List.cons_append, tag?, if_pos opens, again]
      rfl
    · cases found

theorem upToBracket_backslashes (n : Nat) (rest : List Char) :
    upToBracket (List.replicate n '\\' ++ rest) = none ↔ upToBracket rest = none := by
  induction n with
  | zero => rfl
  | succ n ih =>
    rw [List.replicate_succ, List.cons_append, upToBracket, if_neg (by decide),
      if_neg (by decide), Option.map_eq_none_iff, ih]

theorem escaped_backslashes (n : Nat) :
    (List.replicate n (Token.plain '\\')).flatMap Token.escaped = List.replicate n '\\' := by
  induction n with
  | zero => rfl
  | succ n ih =>
    rw [List.replicate_succ, List.flatMap_cons, ih]
    rfl

/-- Escaping puts nothing but backslashes before an opening bracket. So a text in which no closing
bracket comes before an opening one is still so when it is escaped and an opening one follows. -/
theorem upToBracket_escaped {cs : List Char} (count ends : Nat) (rest : List Char)
    (missing : upToBracket cs = none) :
    upToBracket ((tokensAfter count cs).flatMap Token.escaped ++
      (List.replicate ends '\\' ++ '[' :: rest)) = none := by
  have opening (more : List Char) : upToBracket ('[' :: more) = none := rfl
  induction count, cs using tokensAfter.induct with
  | case1 count =>
    rw [tokensAfter, escaped_backslashes, upToBracket_backslashes, upToBracket_backslashes, opening]
  | case2 count cs ih =>
    rw [tokensAfter_backslash]
    rw [upToBracket, if_neg (by decide), if_neg (by decide), Option.map_eq_none_iff] at missing
    exact ih missing
  | case3 count cs inside after tag _ ih =>
    rw [tokensAfter_tag count tag]
    simp only [List.flatMap_cons, Token.escaped, List.append_assoc, List.cons_append]
    rw [upToBracket_backslashes, opening]
  | case4 count cs untagged _ ih =>
    rw [tokensAfter_untagged count untagged]
    simp only [List.flatMap_append, List.flatMap_cons, escaped_backslashes, Token.escaped,
      List.append_assoc, List.cons_append, List.nil_append]
    rw [upToBracket_backslashes, opening]
  | case5 count c cs backslash bracket ih =>
    rw [upToBracket] at missing
    split at missing
    · cases missing
    rename_i close
    rw [Option.map_eq_none_iff] at missing
    rw [tokensAfter_plain backslash bracket]
    simp only [List.flatMap_append, List.flatMap_cons, escaped_backslashes, Token.escaped,
      List.append_assoc, List.cons_append, List.nil_append]
    rw [upToBracket_backslashes, upToBracket, if_neg close, if_neg bracket,
      Option.map_eq_none_iff]
    exact ih missing

theorem tag?_backslashes (n : Nat) (rest : List Char) :
    tag? (List.replicate n '\\' ++ '[' :: rest) = none := by
  cases n <;> rfl

/-- What is no tag is none when it is escaped, nor is what begins with a backslash. -/
theorem tag?_escaped {count : Nat} {cs : List Char} (ends : Nat) (rest : List Char)
    (free : 0 < count ∨ tag? cs = none) :
    tag? ((tokensAfter count cs).flatMap Token.escaped ++
      (List.replicate ends '\\' ++ '[' :: rest)) = none := by
  induction count, cs using tokensAfter.induct with
  | case1 count =>
    rw [tokensAfter, escaped_backslashes, ← List.append_assoc, List.replicate_append_replicate]
    exact tag?_backslashes _ _
  | case2 count cs ih =>
    rw [tokensAfter_backslash]
    exact ih (.inl (Nat.succ_pos count))
  | case3 count cs inside after tag _ ih =>
    rw [tokensAfter_tag count tag]
    simp only [List.flatMap_cons, Token.escaped, List.append_assoc, List.cons_append]
    exact tag?_backslashes _ _
  | case4 count cs untagged _ ih =>
    rw [tokensAfter_untagged count untagged]
    simp only [List.flatMap_append, List.flatMap_cons, escaped_backslashes, Token.escaped,
      List.append_assoc, List.cons_append, List.nil_append]
    exact tag?_backslashes _ _
  | case5 count c cs backslash bracket ih =>
    rw [tokensAfter_plain backslash bracket]
    simp only [List.flatMap_append, List.flatMap_cons, escaped_backslashes, Token.escaped,
      List.append_assoc, List.cons_append, List.nil_append]
    cases count with
    | succ count => rfl
    | zero =>
      have untagged := free.resolve_left (Nat.lt_irrefl 0)
      rw [List.replicate_zero, List.nil_append]
      rw [tag?] at untagged ⊢
      split at untagged
      · rename_i opens
        rw [Option.map_eq_none_iff] at untagged
        rw [if_pos opens, Option.map_eq_none_iff]
        exact upToBracket_escaped 0 ends rest untagged
      · rename_i shut
        rw [if_neg shut]

/-- An escaped text before a closing tag is read without any other tag that counts. -/
theorem tokensAfter_escaped (count ends : Nat) (cs : List Char) :
    ∃ inert backslashes, (∀ t ∈ inert, Token.Inert t) ∧
      tokensAfter 0 ((tokensAfter count cs).flatMap Token.escaped ++
        (List.replicate ends '\\' ++ ['[', '/', ']'])) = inert ++ [.tag backslashes ['/']] := by
  have plain (n : Nat) : ∀ t ∈ List.replicate n (Token.plain '\\'), t.Inert := by
    intro t member
    rw [List.eq_of_mem_replicate member]
    trivial
  induction count, cs using tokensAfter.induct with
  | case1 count =>
    refine ⟨[], count + ends, List.forall_mem_nil _, ?_⟩
    have close : tag? ['/', ']'] = some (['/'], []) := rfl
    rw [tokensAfter, escaped_backslashes, ← List.append_assoc, List.replicate_append_replicate,
      tokensAfter_replicate, tokensAfter_tag _ close, tokensAfter, Nat.zero_add]
    rfl
  | case2 count cs ih =>
    rw [tokensAfter_backslash]
    exact ih
  | case3 count cs inside after tag _ ih =>
    obtain ⟨inert, backslashes, each, read⟩ := ih
    obtain ⟨_, again⟩ := tag?_eq_some tag
    refine ⟨.tag (2 * count + 1) inside :: inert, backslashes, ?_, ?_⟩
    · rw [List.forall_mem_cons]
      exact ⟨Nat.mul_add_mod 2 count 1, each⟩
    · rw [tokensAfter_tag count tag]
      simp only [List.flatMap_cons, Token.escaped, List.append_assoc, List.cons_append,
        List.nil_append]
      rw [tokensAfter_replicate, tokensAfter_tag _ (again _), read, Nat.zero_add]
  | case4 count cs untagged _ ih =>
    obtain ⟨inert, backslashes, each, read⟩ := ih
    refine ⟨List.replicate count (.plain '\\') ++ .plain '[' :: inert, backslashes, ?_, ?_⟩
    · rw [List.forall_mem_append, List.forall_mem_cons]
      exact ⟨plain count, trivial, each⟩
    · rw [tokensAfter_untagged count untagged]
      simp only [List.flatMap_append, List.flatMap_cons, escaped_backslashes, Token.escaped,
        List.append_assoc, List.cons_append, List.nil_append]
      rw [tokensAfter_replicate, tokensAfter_untagged _ (tag?_escaped ends _ (.inr untagged)), read,
        Nat.zero_add]
  | case5 count c cs backslash bracket ih =>
    obtain ⟨inert, backslashes, each, read⟩ := ih
    refine ⟨List.replicate count (.plain '\\') ++ .plain c :: inert, backslashes, ?_, ?_⟩
    · rw [List.forall_mem_append, List.forall_mem_cons]
      exact ⟨plain count, trivial, each⟩
    · rw [tokensAfter_plain backslash bracket]
      simp only [List.flatMap_append, List.flatMap_cons, escaped_backslashes, Token.escaped,
        List.append_assoc, List.cons_append, List.nil_append]
      rw [tokensAfter_replicate, tokensAfter_plain backslash bracket, read, Nat.zero_add]

/-- Within one style an escaped text can be printed, whatever it is: the style is closed behind it,
or its closing tag is plain text. -/
theorem check_escape {console : Console} {style : String} (own : style ∈ programStyles)
    (text : List Char) :
    check console (tokens ('[' :: (style.toList ++ ']' :: (escape text ++ ['[', '/', ']'])))) =
      .ok () := by
  obtain ⟨ends, written⟩ : ∃ ends, escape text ++ ['[', '/', ']'] =
      (tokens text).flatMap Token.escaped ++ (List.replicate ends '\\' ++ ['[', '/', ']']) := by
    simp only [escape]
    split
    · exact ⟨1, List.append_assoc _ _ _⟩
    · exact ⟨0, rfl⟩
  obtain ⟨inert, backslashes, each, read⟩ := tokensAfter_escaped 0 ends text
  rw [tokens, tokensAfter_tag 0 (tag?_own own _), written, tokens, read]
  exact check_within own each backslashes

end ArrayScene.Markup

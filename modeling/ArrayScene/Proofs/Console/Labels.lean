import ArrayScene.Command.Run
import ArrayScene.Proofs.Console.Escaping
import ArrayScene.Proofs.ElementIds
import ArrayScene.Proofs.Json.Numerals

/-!
# Labels of nodes

What the line of a node says: its kind with its own sizes, and its extent. The only brackets in a
label are around sizes, where no tag begins, so a label is printed as it is. The kind and the sizes
can be read off a label: a title has no blank in it, and a numeral none of the marks around it.
-/
namespace ArrayScene

/-- What stands before and behind the first of some marks is determined by the whole. -/
theorem append_cons_inj_of_first {α : Type} {c : α} {before before' after after' : List α}
    (first : c ∉ before) (first' : c ∉ before')
    (same : before ++ c :: after = before' ++ c :: after') : before = before' ∧ after = after' := by
  have turned : after.reverse ++ c :: before.reverse = after'.reverse ++ c :: before'.reverse := by
    simpa using congrArg List.reverse same
  have parts := append_cons_inj_of_not_mem (by simpa using first) (by simpa using first') turned
  exact ⟨List.reverse_inj.mp parts.2, List.reverse_inj.mp parts.1⟩

namespace Decimal

theorem mem_ofInt {c : Char} {n : Int} (member : c ∈ ofInt n) : c = '-' ∨ c.isDigit = true := by
  cases n with
  | ofNat n => exact .inr (isDigit_of_mem_toDigits member)
  | negSucc n => exact (List.mem_cons.mp member).imp_right isDigit_of_mem_toDigits

theorem not_mem_ofInt {c : Char} (minus : c ≠ '-') (digit : c.isDigit = false) (n : Int) :
    c ∉ ofInt n := by
  intro member
  rcases mem_ofInt member with same | isDigit
  · exact minus same
  · exact Bool.false_ne_true (digit.symm.trans isDigit)

/-- Different integers have different texts. -/
theorem ofInt_injective {n m : Int} (same : ofInt n = ofInt m) : n = m := by
  have unsigned (k l : Nat) : Nat.toDigits 10 k ≠ '-' :: Nat.toDigits 10 l := by
    intro digits
    have minus : '-' ∈ Nat.toDigits 10 k := digits ▸ List.mem_cons_self
    exact absurd (isDigit_of_mem_toDigits minus) (by decide)
  have magnitude {k l : Nat} (digits : Nat.toDigits 10 k = Nat.toDigits 10 l) : k = l := by
    simpa using congrArg value digits
  cases n with
  | ofNat n =>
    cases m with
    | ofNat m => exact congrArg Int.ofNat (magnitude same)
    | negSucc m => exact absurd same (unsigned n (m + 1))
  | negSucc n =>
    cases m with
    | ofNat m => exact absurd same.symm (unsigned m (n + 1))
    | negSucc m =>
      have next : n + 1 = m + 1 := magnitude (List.cons.inj same).2
      rw [Nat.succ.inj next]

end Decimal

/-! ### Text that is printed as it is -/

namespace Markup

theorem opensTag_of_isDigit {c : Char} (digit : c.isDigit = true) : opensTag c = false := by
  have small : ¬('a' ≤ c) := by
    intro letter
    have above : 'a'.toNat ≤ c.toNat := letter
    have below := (Char.isDigit_iff_toNat.mp digit).2
    exact absurd (Nat.le_trans above below) (by decide)
  have marks : c ≠ '#' ∧ c ≠ '/' ∧ c ≠ '@' := by
    refine ⟨?_, ?_, ?_⟩ <;>
      · rintro rfl
        exact absurd digit (by decide)
  simp [opensTag, small, marks]

/-- No tag begins with an integer. -/
theorem tag?_ofInt (n : Int) (rest : List Char) : tag? (Decimal.ofInt n ++ rest) = none := by
  obtain ⟨c, cs, text, leading⟩ := Json.ofInt_head n
  have shut : opensTag c = false := by
    rcases leading with rfl | digit
    · decide
    · exact opensTag_of_isDigit digit
  rw [text, List.cons_append, tag?, shut]
  rfl

theorem tokens_of_no_bracket {cs : List Char} (brackets : '[' ∉ cs) :
    tokens cs = cs.map .plain := by
  rw [tokens, tokensAfter_eq_plain brackets, List.replicate_zero, List.nil_append]

/-- A text is plain if its only bracket stands before an integer. -/
theorem tokens_of_sized {cs rest : List Char} (before : '[' ∉ cs) {c : Char} (backslash : c ≠ '\\')
    (bracket : c ≠ '[') (n : Int) (behind : '[' ∉ rest) :
    tokens (cs ++ c :: '[' :: (Decimal.ofInt n ++ rest)) =
      (cs ++ c :: '[' :: (Decimal.ofInt n ++ rest)).map .plain := by
  have size : '[' ∉ Decimal.ofInt n ++ rest := by
    rw [List.mem_append, not_or]
    exact ⟨Decimal.not_mem_ofInt (by decide) (by decide) n, behind⟩
  rw [tokens, tokensAfter_append before backslash bracket,
    tokensAfter_untagged 0 (tag?_ofInt n rest), tokensAfter_eq_plain size]
  simp

theorem unescaped_of_no_backslash {cs : List Char} (backslash : '\\' ∉ cs) : unescaped cs = cs := by
  induction cs with
  | nil => rfl
  | cons c rest ih =>
    rw [List.mem_cons, not_or] at backslash
    rw [unescaped, ih backslash.2]
    rintro _ rfl
    exact absurd rfl backslash.1

/-- Plain characters are shown behind those before them. -/
theorem shown_plain (console : Console) (pending cs : List Char) (ts : List Token) :
    shown console pending (cs.map .plain ++ ts) = shown console (cs.reverse ++ pending) ts := by
  induction cs generalizing pending with
  | nil => rfl
  | cons c cs ih =>
    rw [List.map_cons, List.cons_append, shown, ih, List.reverse_cons, List.append_assoc,
      List.singleton_append]

/-- A text of plain tokens without backslashes and colons is printed as it is. -/
theorem print_of_plain {console : Console} {cs : List Char} (plain : tokens cs = cs.map .plain)
    (backslash : '\\' ∉ cs) (colon : ':' ∉ cs) : print console cs = .ok cs := by
  have whole : tokens cs = cs.map .plain ++ [] := by
    rw [plain, List.append_nil]
  have readable : check console (tokens cs) = .ok () := by
    rw [whole, check_inert (inert_plain cs)]
    rfl
  rw [print, readable, whole, shown_plain, shown, List.append_nil, List.reverse_reverse,
    unescaped_of_no_backslash backslash, console.pictures_of_no_colon cs colon]
  rfl

/-- Within one style a text without brackets, backslashes and colons is printed as it is. -/
theorem print_styled {console : Console} {style : String} (own : style ∈ programStyles)
    {text : List Char} (brackets : '[' ∉ text) (backslash : '\\' ∉ text) (colon : ':' ∉ text) :
    print console ('[' :: (style.toList ++ ']' :: (text ++ ['[', '/', ']']))) = .ok text := by
  have read (rest : List Char) : tokensAfter 0 (text ++ rest) =
      text.map .plain ++ tokensAfter 0 rest := by
    induction text with
    | nil => rfl
    | cons c text ih =>
      rw [List.mem_cons, not_or] at brackets backslash colon
      rw [List.cons_append, tokensAfter_plain (Ne.symm backslash.1) (Ne.symm brackets.1),
        ih brackets.2 backslash.2 colon.2]
      rfl
  have whole : tokens ('[' :: (style.toList ++ ']' :: (text ++ ['[', '/', ']']))) =
      .tag 0 style.toList :: (text.map .plain ++ [.tag 0 ['/']]) := by
    rw [tokens, tokensAfter_tag 0 (tag?_own own _), read, tokensAfter_tag 0 (tag?_close []),
      tokensAfter]
    rfl
  have nothing : console.pictures [] = [] := console.pictures_of_no_colon [] List.not_mem_nil
  rw [print, check_styled_text own brackets, whole, shown, shown_plain]
  simp [shown, unescaped, nothing, unescaped_of_no_backslash backslash,
    console.pictures_of_no_colon text colon, Except.map]

theorem escape_of_plain {text : List Char} (brackets : '[' ∉ text) (backslash : '\\' ∉ text) :
    escape text = text := by
  have same : (tokens text).flatMap Token.escaped = text := by
    rw [tokens_of_no_bracket brackets, List.flatMap_map]
    exact List.flatMap_singleton' text
  have none : trailingBackslashes text = 0 := by
    rw [trailingBackslashes, List.length_eq_zero_iff]
    cases reversed : text.reverse with
    | nil => rfl
    | cons c rest =>
      have member : c ∈ text := List.mem_reverse.mp (reversed ▸ List.mem_cons_self)
      have other : c ≠ '\\' := fun slash => backslash (slash ▸ member)
      simp [other]
  rw [escape, same, none]
  rfl

end Markup

namespace Console

/-- The characters that stand for themselves where no tag is: all from the blank on but the
backslash and the colon. -/
def isPlain (c : Char) : Bool := ' ' ≤ c && c != '\\' && c != ':'

theorem plain_of_all {text : String} (all : text.toList.all isPlain = true) :
    ∀ c ∈ text.toList, isPlain c = true :=
  List.all_eq_true.mp all

theorem not_mem_of_plain {c : Char} {cs : List Char} (special : isPlain c = false)
    (plain : ∀ d ∈ cs, isPlain d = true) : c ∉ cs :=
  fun member => Bool.false_ne_true (special.symm.trans (plain c member))

/-- Plain characters are all that is shown of a text whose tags leave them. -/
theorem line_of_print {console : Console} {text shown : String}
    (printed : Markup.print console text.toList = .ok shown.toList)
    (plain : ∀ c ∈ shown.toList, isPlain c = true) : console.line text = .ok (shown ++ "\n") := by
  have kept : (shown.toList.filter fun c => !isDropped c) = shown.toList := by
    rw [List.filter_eq_self]
    intro c member
    have visible : 32 ≤ c.toNat := by
      have blank := plain c member
      simp only [isPlain, Bool.and_eq_true, decide_eq_true_eq] at blank
      exact blank.1.1
    simp only [isDropped, Bool.not_eq_true', Bool.or_eq_false_iff, beq_eq_false_iff_ne]
    omega
  rw [line, printed]
  simp only [kept]
  rw [Text.expandTabs, Text.expandFrom_of_no_tab (not_mem_of_plain (by decide) plain),
    String.ofList_toList]

/-- A text of plain characters without tags is printed as it is. -/
theorem line_of_plain {console : Console} {text : String}
    (plain : ∀ c ∈ text.toList, isPlain c = true)
    (untagged : Markup.tokens text.toList = text.toList.map .plain) :
    console.line text = .ok (text ++ "\n") := by
  refine line_of_print ?_ plain
  exact Markup.print_of_plain untagged (not_mem_of_plain (by decide) plain)
    (not_mem_of_plain (by decide) plain)

end Console

/-! ### Labels -/

namespace Node

variable {n m : Node} {title : String}

/-- The kind of a node with its own sizes. A bare node has no title. -/
inductive Title : Node → String → Prop
  | float : Title float "Float"
  | linear (e : Node) (n : Int) : Title (linear e n) ("LinearArray[" ++ sizeText n ++ "]")
  | grid (e : Node) (w h : Int) :
    Title (grid e w h) ("GridArray[" ++ sizeText w ++ "x" ++ sizeText h ++ "]")
  | map (i o : Node) (n : Int) : Title (map i o n) ("Map[" ++ sizeText n ++ "]")

/-- The sizes of a node itself, without those of the nodes within it. -/
def ownSizes : Node → List Int
  | float => []
  | linear _ n => [n]
  | grid _ w h => [w, h]
  | map _ _ n => [n]
  | bare _ => []

theorem toList_sizeText (n : Int) : (sizeText n).toList = Decimal.ofInt n := String.toList_ofList

theorem sizeText_injective {n m : Int} (same : sizeText n = sizeText m) : n = m := by
  apply Decimal.ofInt_injective
  rw [← toList_sizeText, ← toList_sizeText, same]

theorem plain_sizeText (n : Int) : ∀ c ∈ (sizeText n).toList, Console.isPlain c = true := by
  intro c member
  rw [toList_sizeText] at member
  rcases Decimal.mem_ofInt member with rfl | digit
  · decide
  · have above := (Char.isDigit_iff_toNat.mp digit).1
    have visible : ' ' ≤ c := Nat.le_trans (by decide : ' '.toNat ≤ 48) above
    have other : c ≠ '\\' ∧ c ≠ ':' := by
      constructor <;>
        · rintro rfl
          exact absurd digit (by decide)
    simp [Console.isPlain, visible, other]

namespace Title

theorem plain (titled : n.Title title) : ∀ c ∈ title.toList, Console.isPlain c = true := by
  have close : ∀ c ∈ "]".toList, Console.isPlain c = true := Console.plain_of_all (by decide)
  cases titled with
  | float => exact Console.plain_of_all (by decide)
  | linear e n =>
    simp only [String.toList_append, List.forall_mem_append]
    exact ⟨⟨Console.plain_of_all (by decide), plain_sizeText n⟩, close⟩
  | grid e w h =>
    simp only [String.toList_append, List.forall_mem_append]
    exact ⟨⟨⟨⟨Console.plain_of_all (by decide), plain_sizeText w⟩,
      Console.plain_of_all (by decide)⟩, plain_sizeText h⟩, close⟩
  | map i o n =>
    simp only [String.toList_append, List.forall_mem_append]
    exact ⟨⟨Console.plain_of_all (by decide), plain_sizeText n⟩, close⟩

theorem blank_not_mem (titled : n.Title title) : ' ' ∉ title.toList := by
  have size (n : Int) : ' ' ∉ (sizeText n).toList := by
    rw [toList_sizeText]
    exact Decimal.not_mem_ofInt (by decide) (by decide) n
  cases titled <;> simp [size]

/-- Behind a title without brackets of their own other texts leave the whole without tags. -/
theorem tokens_append (titled : n.Title title) {rest : List Char} (behind : '[' ∉ rest) :
    Markup.tokens (title.toList ++ rest) = (title.toList ++ rest).map .plain := by
  have size (n : Int) : '[' ∉ Decimal.ofInt n :=
    Decimal.not_mem_ofInt (by decide) (by decide) n
  cases titled with
  | float => exact Markup.tokens_of_no_bracket (by simp [behind])
  | linear e n =>
    have text : ("LinearArray[" ++ sizeText n ++ "]").toList ++ rest =
        "LinearArra".toList ++ 'y' :: '[' :: (Decimal.ofInt n ++ ']' :: rest) := by
      simp [toList_sizeText]
    rw [text]
    exact Markup.tokens_of_sized (by decide) (by decide) (by decide) n (by simp [behind])
  | grid e w h =>
    have text : ("GridArray[" ++ sizeText w ++ "x" ++ sizeText h ++ "]").toList ++ rest =
        "GridArra".toList ++ 'y' :: '[' :: (Decimal.ofInt w ++ 'x' :: (Decimal.ofInt h ++
          ']' :: rest)) := by
      simp [toList_sizeText]
    rw [text]
    exact Markup.tokens_of_sized (by decide) (by decide) (by decide) w (by simp [size, behind])
  | map i o n =>
    have text : ("Map[" ++ sizeText n ++ "]").toList ++ rest =
        "Ma".toList ++ 'p' :: '[' :: (Decimal.ofInt n ++ ']' :: rest) := by
      simp [toList_sizeText]
    rw [text]
    exact Markup.tokens_of_sized (by decide) (by decide) (by decide) n (by simp [behind])

/-- A title tells the kind of its node and the sizes of the node itself. -/
theorem kind_and_sizes {title' : String} (titled : n.Title title) (titled' : m.Title title')
    (same : title = title') : n.kind = m.kind ∧ n.ownSizes = m.ownSizes := by
  have characters := congrArg String.toList same
  cases titled with
  | float =>
    cases titled' with
    | float => exact ⟨rfl, rfl⟩
    | _ => simp at characters
  | linear e n =>
    cases titled' with
    | linear e' n' =>
      rw [String.append_left_inj, String.append_right_inj] at same
      rw [sizeText_injective same]
      exact ⟨rfl, rfl⟩
    | _ => simp at characters
  | grid e w h =>
    cases titled' with
    | grid e' w' h' =>
      have mark (n : Int) : 'x' ∉ Decimal.ofInt n :=
        Decimal.not_mem_ofInt (by decide) (by decide) n
      have sizes : Decimal.ofInt w ++ 'x' :: (sizeText h ++ "]").toList =
          Decimal.ofInt w' ++ 'x' :: (sizeText h' ++ "]").toList := by
        simpa [toList_sizeText] using characters
      obtain ⟨width, height⟩ := append_cons_inj_of_first (mark w) (mark w') sizes
      rw [String.toList_inj, String.append_left_inj] at height
      rw [Decimal.ofInt_injective width, sizeText_injective height]
      exact ⟨rfl, rfl⟩
    | _ => simp at characters
  | map i o n =>
    cases titled' with
    | map i' o' n' =>
      rw [String.append_left_inj, String.append_right_inj] at same
      rw [sizeText_injective same]
      exact ⟨rfl, rfl⟩
    | _ => simp at characters

end Title

end Node

/-- What a line of a tree shows: a node, or that the input or the output of a map follows. -/
inductive Shown where
  | node (n : Node)
  | input
  | output

namespace Shown

/-- What a line says about what it shows. -/
inductive Label : Shown → String → Prop
  | node {n : Node} {title : String} {w h : Int} (titled : n.Title title)
    (width : n.width = .ok w) (height : n.height = .ok h) :
    Label (.node n) (title ++ " " ++ Node.sizeText w ++ "x" ++ Node.sizeText h)
  | input : Label .input "input"
  | output : Label .output "output"

namespace Label

variable {shown : Shown} {label : String}

theorem plain (labelled : shown.Label label) : ∀ c ∈ label.toList, Console.isPlain c = true := by
  cases labelled with
  | node titled width height =>
    simp only [String.toList_append, List.forall_mem_append]
    exact ⟨⟨⟨⟨titled.plain, Console.plain_of_all (by decide)⟩, Node.plain_sizeText _⟩,
      Console.plain_of_all (by decide)⟩, Node.plain_sizeText _⟩
  | input => exact Console.plain_of_all (by decide)
  | output => exact Console.plain_of_all (by decide)

/-- Labels are printed as they are. -/
theorem line (labelled : shown.Label label) (console : Console) :
    console.line label = .ok (label ++ "\n") := by
  apply Console.line_of_plain labelled.plain
  cases labelled with
  | node titled width height =>
    have extent (n : Int) : '[' ∉ (Node.sizeText n).toList := by
      rw [Node.toList_sizeText]
      exact Decimal.not_mem_ofInt (by decide) (by decide) n
    simp only [String.toList_append, List.append_assoc]
    exact titled.tokens_append (by simp [extent])
  | input => exact Markup.tokens_of_no_bracket (by decide)
  | output => exact Markup.tokens_of_no_bracket (by decide)

/-- The label of a node tells its kind and its own sizes. -/
theorem kind_and_sizes {n m : Node} (labelled : (Shown.node n).Label label)
    (labelled' : (Shown.node m).Label label) : n.kind = m.kind ∧ n.ownSizes = m.ownSizes := by
  generalize same : label = label' at labelled'
  cases labelled with
  | @node _ title w h titled _ _ =>
    cases labelled' with
    | @node _ title' w' h' titled' _ _ =>
      have parts : title.toList ++ ' ' :: (Node.sizeText w ++ "x" ++ Node.sizeText h).toList =
          title'.toList ++ ' ' :: (Node.sizeText w' ++ "x" ++ Node.sizeText h').toList := by
        simpa using congrArg String.toList same
      obtain ⟨titles, _⟩ :=
        append_cons_inj_of_first titled.blank_not_mem titled'.blank_not_mem parts
      exact titled.kind_and_sizes titled' (String.toList_inj.mp titles)

end Label

end Shown

end ArrayScene

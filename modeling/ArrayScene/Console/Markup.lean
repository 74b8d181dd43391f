import ArrayScene.Text.Blank

/-!
# Markup

Printed text may hold tags in brackets, which style it on a console that has colours and are left
out on this one. A tag is `[`, then one of `a-z # / @`, then no `[`, up to the first `]`; of the
backslashes right before it every two stand for one, and an odd one makes the tag plain text. A tag
that begins with a slash closes the last open tag, or the last one of its name; where there is none
the text cannot be printed. A tag whose name begins with an at sign is that of a handler, and what
it gives the handler is read when it is closed. `escape` writes a text so that its tags are plain
text.

Which words make a style, under what name it is kept, what can be given to a handler, and which
pictures are printed for their names between colons is up to the console, so a `Console` brings it
with it.
-/
namespace ArrayScene

/-- The styles of the program's own texts. -/
def Markup.programStyles : List String := ["bold", "green", "red", "yellow"]

/-- What a console makes of the words in tags and of the plain text between them. -/
structure Console where
  /-- The usual form of the words of a style. Words that are no style have one as well, but there
  are some on which the reading of a style breaks off. -/
  styleName : String → Option String
  /-- Whether what a tag gives its handler can be read. -/
  readsParameters : String → Bool
  /-- Plain text with pictures in place of their names between colons. -/
  pictures : List Char → List Char
  /-- The styles of the program's own texts are in their usual form. -/
  styleName_of_mem : ∀ word ∈ Markup.programStyles, styleName word = some word
  /-- Without a colon there is no such name. -/
  pictures_of_no_colon : ∀ cs, ':' ∉ cs → pictures cs = cs

namespace Markup

/-- Why a text cannot be printed. -/
inductive Fault where
  /-- It closes a tag that is not open. -/
  | unopenedTag
  /-- It closes the tag of a handler with parameters that cannot be read. -/
  | parameters
  /-- The reading of a style breaks off. -/
  | style
  deriving DecidableEq, Repr

/-- The characters that may follow the bracket of a tag. -/
def opensTag (c : Char) : Bool := ('a' ≤ c && c ≤ 'z') || c == '#' || c == '/' || c == '@'

/-- The characters up to a closing bracket, without an opening one between, and those behind it. -/
def upToBracket : List Char → Option (List Char × List Char)
  | [] => none
  | c :: rest =>
    if c = ']' then some ([], rest)
    else if c = '[' then none
    else (upToBracket rest).map fun (cs, after) => (c :: cs, after)

/-- The inside of a tag whose opening bracket has been read, and what follows the tag. -/
def tag? : List Char → Option (List Char × List Char)
  | [] => none
  | c :: rest =>
    if opensTag c then (upToBracket rest).map fun (cs, after) => (c :: cs, after) else none

inductive Token where
  | plain (c : Char)
  /-- The inside of a tag, and how many backslashes stand right before it. -/
  | tag (backslashes : Nat) (inside : List Char)
  deriving DecidableEq, Repr

theorem length_upToBracket {cs inside after : List Char}
    (h : upToBracket cs = some (inside, after)) : after.length < cs.length := by
  induction cs generalizing inside with
  | nil => simp [upToBracket] at h
  | cons c rest ih =>
    rw [upToBracket] at h
    split at h
    · simp only [Option.some.injEq, Prod.mk.injEq] at h
      simp [← h.2]
    · split at h
      · simp at h
      · simp only [Option.map_eq_some_iff, Prod.mk.injEq, Prod.exists] at h
        obtain ⟨a, b, hab, -, rfl⟩ := h
        have := ih hab
        simp only [List.length_cons]
        omega

theorem length_tag {cs inside after : List Char} (h : tag? cs = some (inside, after)) :
    after.length < cs.length := by
  cases cs with
  | nil => simp [tag?] at h
  | cons c rest =>
    cases ho : opensTag c with
    | false => simp [tag?, ho] at h
    | true =>
      simp only [tag?, ho, if_true, Option.map_eq_some_iff, Prod.mk.injEq, Prod.exists] at h
      obtain ⟨a, b, hab, -, rfl⟩ := h
      have := length_upToBracket hab
      simp only [List.length_cons]
      omega

/-- The tokens of a text before which `count` backslashes have been read. -/
def tokensAfter (count : Nat) (cs : List Char) : List Token :=
  match cs with
  | [] => List.replicate count (.plain '\\')
  | c :: rest =>
    if c = '\\' then tokensAfter (count + 1) rest
    else if c = '[' then
      match h : tag? rest with
      | some (inside, after) => .tag count inside :: tokensAfter 0 after
      | none => List.replicate count (.plain '\\') ++ .plain c :: tokensAfter 0 rest
    else List.replicate count (.plain '\\') ++ .plain c :: tokensAfter 0 rest
termination_by cs.length
decreasing_by
  · simp
  · have := length_tag h
    simp only [List.length_cons]
    omega
  · simp
  · simp

/-- The tokens of a text. -/
def tokens (text : List Char) : List Token := tokensAfter 0 text

/-- A token written so that its tag is plain text. -/
def Token.escaped : Token → List Char
  | plain c => [c]
  | tag backslashes inside =>
    List.replicate (2 * backslashes + 1) '\\' ++ '[' :: inside ++ [']']

/-- How many backslashes a text ends in. -/
def trailingBackslashes (cs : List Char) : Nat := (cs.reverse.takeWhile (· == '\\')).length

/-- A text written so that its tags are plain text. A single backslash at its end is doubled; two
or more are left as they are. -/
def escape (text : List Char) : List Char :=
  let escaped := (tokens text).flatMap Token.escaped
  if trailingBackslashes escaped = 1 then escaped ++ ['\\'] else escaped

/-- An open tag: the name under which it is closed, and what stands behind its equals sign. -/
structure Tag where
  name : String
  parameters : Option String
  deriving DecidableEq, Repr

/-- The words of the style that a tag stands for. -/
def Tag.words (tag : Tag) : String :=
  match tag.parameters with
  | none => tag.name
  | some parameters => tag.name ++ " " ++ parameters

/-- Whether a tag is that of a handler. -/
def Tag.isHandler (tag : Tag) : Bool := tag.name.toList.head? == some '@'

/-- The part of the inside of a tag before an equals sign. -/
def tagHead (inside : List Char) : List Char := inside.takeWhile (· ≠ '=')

/-- The part of the inside of a tag behind its first equals sign, if it has one. -/
def tagParameters (inside : List Char) : Option String :=
  match inside.dropWhile (· ≠ '=') with
  | [] => none
  | _ :: parameters => some (String.ofList parameters)

/-- The last open tag of a name, and the open tags without it; the last one is first. -/
def closeNamed (name : String) : List Tag → Option (Tag × List Tag)
  | [] => none
  | tag :: rest =>
    if tag.name = name then some (tag, rest)
    else (closeNamed name rest).map fun (closed, left) => (closed, tag :: left)

/-- What a tag does to the open ones. -/
inductive Change where
  | opens (tag : Tag)
  /-- It closes a tag and leaves the others. -/
  | closes (tag : Tag) (left : List Tag)

/-- What becomes of the open tags with a tag. -/
def change (console : Console) (inside : List Char) (opened : List Tag) : Except Fault Change :=
  match tagHead inside with
  | '/' :: rest =>
    let given := Text.trim Text.isBlank rest
    if given.isEmpty then
      match opened with
      | [] => .error .unopenedTag
      | tag :: left => .ok (.closes tag left)
    else match console.styleName (String.ofList given) with
      | none => .error .style
      | some name =>
        match closeNamed name opened with
        | none => .error .unopenedTag
        | some (tag, left) => .ok (.closes tag left)
  | head =>
    match console.styleName (String.ofList head) with
    | none => .error .style
    | some name => .ok (.opens ⟨name, tagParameters inside⟩)

/-- The styles that a closed tag gives to what it was around: its own unless it is that of a
handler, whose parameters have to be readable, if it has any. -/
def closing (console : Console) (tag : Tag) : Except Fault (List Tag) :=
  if tag.isHandler then
    match tag.parameters with
    | none => .ok []
    | some parameters =>
      if parameters = "" ∨ console.readsParameters parameters then .ok [] else .error .parameters
  else .ok [tag]

/-- The tags whose styles some tokens are printed in, with the given ones open. Those that are left
open go to the end. -/
def styles (console : Console) (opened : List Tag) : List Token → Except Fault (List Tag)
  | [] => .ok opened
  | .plain _ :: rest => styles console opened rest
  | .tag backslashes inside :: rest =>
    if backslashes % 2 = 1 then styles console opened rest
    else match change console inside opened with
      | .error fault => .error fault
      | .ok (.opens tag) => styles console (tag :: opened) rest
      | .ok (.closes tag left) => do
        let closed ← closing console tag
        let others ← styles console left rest
        .ok (closed ++ others)

/-- Whether tokens can be printed: their tags are closed as they should be, and each style can be
read. -/
def check (console : Console) (ts : List Token) : Except Fault Unit := do
  let tags ← styles console [] ts
  if tags.all fun tag => (console.styleName tag.words).isSome then .ok () else .error .style

/-- Plain characters, of which a backslash right before an opening bracket is left out. -/
def unescaped : List Char → List Char
  | [] => []
  | '\\' :: '[' :: rest => '[' :: unescaped rest
  | c :: rest => c :: unescaped rest

/-- The printed characters of tokens; `pending` holds the plain characters before them in
reverse. -/
def shown (console : Console) (pending : List Char) : List Token → List Char
  | [] => console.pictures (unescaped pending.reverse)
  | .plain c :: rest => shown console (c :: pending) rest
  | .tag backslashes inside :: rest =>
    let literal := if backslashes % 2 = 1 then '[' :: inside ++ [']'] else []
    console.pictures (unescaped pending.reverse) ++ List.replicate (backslashes / 2) '\\' ++
      console.pictures literal ++ shown console [] rest

/-- The printed form of a text, or why it has none. -/
def print (console : Console) (text : List Char) : Except Fault (List Char) :=
  (check console (tokens text)).map fun _ => shown console [] (tokens text)

end Markup

end ArrayScene

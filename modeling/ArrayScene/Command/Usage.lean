import ArrayScene.Store.Path
import ArrayScene.Text.DecimalDigit
import ArrayScene.Validation.Integer

/-!
# Use of the commands

What may stand on a command line: a command, its options with their values, in any order with its
arguments, and after `--` only arguments. Of an option that is given twice the last value counts.
-/
namespace ArrayScene

structure RenderOptions where
  inputDir : Option Path
  outputDir : Option Path
  format : Option String
  unitSize : Option Int
  config : Option Path
  deriving DecidableEq, Repr

inductive Invocation where
  | render (options : RenderOptions)
  | inspect (file : Path) (config : Option Path)
  | validate (file : Path)
  | help
  deriving DecidableEq, Repr

/-- What a command line holds apart from the name of the command. -/
structure CommandLine where
  options : List (String × String)
  arguments : List String
  help : Bool
  deriving DecidableEq, Repr

namespace CommandLine

def empty : CommandLine := ⟨[], [], false⟩

/-- Whether a word is an option. -/
def isOption (word : List Char) : Bool := word.head? = some '-' && 1 < word.length

/-- The name of an option and the value behind its equals sign. -/
def splitOption (word : List Char) : String × Option String :=
  (String.ofList (word.takeWhile (· ≠ '=')),
    match word.dropWhile (· ≠ '=') with
    | _ :: value => some (String.ofList value)
    | [] => none)

/-- The words after the name of a command that has the given options. -/
def ofWords (names : List String) : List String → Option CommandLine
  | [] => some empty
  | word :: rest =>
    if word = "--" then some ⟨[], rest, false⟩
    else if isOption word.toList then
      match splitOption word.toList with
      | ("--help", none) => (ofWords names rest).map fun line => { line with help := true }
      | (name, some value) =>
        if name ∈ names then
          (ofWords names rest).map fun line =>
            { line with options := (name, value) :: line.options }
        else none
      | (name, none) =>
        if name ∈ names then
          match rest with
          | value :: rest =>
            (ofWords names rest).map fun line =>
              { line with options := (name, value) :: line.options }
          | [] => none
        else none
    else (ofWords names rest).map fun line => { line with arguments := word :: line.arguments }

/-- The value of an option. -/
def value? (line : CommandLine) (name : String) : Option String := line.options.reverse.lookup name

/-- The path that an option gives. -/
def path? (line : CommandLine) (name : String) : Option Path := (line.value? name).map Path.ofString

end CommandLine

namespace Invocation

/-- A unit size, which is the numeral of a positive integer. Its zeros in front are among the digits
that it may have. -/
def unitSize? (text : String) : Option Int :=
  let (negative, cs) := Decimal.splitSign (Text.trim Text.isWhiteSpace text.toList)
  if Validation.exceedsLimit false cs then none
  else match Validation.digits? Text.digitValue? cs with
    | some n => if negative = false ∧ 0 < n then some (n : Int) else none
    | none => none

/-- The options of the command that renders. -/
def renderOptions? (line : CommandLine) : Option RenderOptions :=
  let options (unitSize : Option Int) : RenderOptions :=
    ⟨line.path? "--input-dir", line.path? "--output-dir", line.value? "--format", unitSize,
      line.path? "--config"⟩
  match line.value? "--unit-size" with
  | none => some (options none)
  | some text => (unitSize? text).map fun n => options (some n)

/-- What the words of a command line ask for; none if they cannot be understood. -/
def ofWords : List String → Option Invocation
  | [] => none
  | "--help" :: _ => some .help
  | "--" :: words => command words
  | words => command words
where
  /-- What a command and the words after it ask for. -/
  command : List String → Option Invocation
  | [] => none
  | "render" :: words => do
    let line ← CommandLine.ofWords
      ["--input-dir", "--output-dir", "--format", "--unit-size", "--config"] words
    if line.help then some .help
    else if line.arguments = [] then (renderOptions? line).map .render
    else none
  | "inspect" :: words => do
    let line ← CommandLine.ofWords ["--config"] words
    if line.help then some .help
    else match line.arguments with
      | [file] => some (.inspect (Path.ofString file) (line.path? "--config"))
      | _ => none
  | "validate" :: words => do
    let line ← CommandLine.ofWords [] words
    if line.help then some .help
    else match line.arguments with
      | [file] => some (.validate (Path.ofString file))
      | _ => none
  | _ :: _ => none

end Invocation

end ArrayScene

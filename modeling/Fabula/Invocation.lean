import Fabula.Text.Numeral

set_option autoImplicit false

namespace Fabula

inductive Tracing where
  | off
  | onStandardError
  | toFile (path : String)
  deriving Repr, DecidableEq

structure Invocation where
  /-- Without a document the sample adventure is played. -/
  document : Option String
  language : String
  tracing : Tracing
  deriving Repr, DecidableEq

namespace Invocation

def byDefault : Invocation := ⟨none, "en", .off⟩

inductive Switch where
  | help
  | language
  | debug
  deriving Repr, DecidableEq

inductive Word where
  | plain (text : String)
  /-- An option, with the value written in the same argument. -/
  | option (o : Switch) (value : Option String)
  | unknown
  | ambiguous
  /-- What ends all options. -/
  | dashes
  deriving Repr, DecidableEq

def longOptions : List (String × Switch) :=
  [("--help", .help), ("--language", .language), ("--debug", .debug)]

def splitValue (arg : String) : String × Option String :=
  let name := arg.toList.takeWhile (· != '=')
  match arg.toList.drop name.length with
  | [] => (arg, none)
  | _ :: value => (String.ofList name, some (String.ofList value))

/-- Whether an argument is a negative number, which is no option. A line may end behind it. -/
def isNegativeNumber (arg : String) : Bool :=
  let isDigit (c : Char) : Bool := (Text.decimalDigit? c).isSome
  let cs := arg.toList
  match if cs.getLast? = some '\n' then cs.dropLast else cs with
  | '-' :: cs =>
    match cs.dropWhile isDigit with
    | [] => !cs.isEmpty
    | '.' :: ds => !ds.isEmpty && ds.all isDigit
    | _ => false
  | _ => false

/-- An argument that begins with a hyphen and is no option: a number or a phrase may be meant. -/
def otherWord (arg : String) : Word :=
  if isNegativeNumber arg || arg.contains ' ' then .plain arg else .unknown

/-- Whether `-h` still asks for help with these characters behind it: it may be repeated, the first
time also behind an equals sign, and takes no value. -/
def asksForHelp : List Char → Bool
  | '=' :: cs => !cs.isEmpty && cs.all (· == 'h')
  | cs => cs.all (· == 'h')

def wordOf (arg : String) : Word :=
  let (name, value) := splitValue arg
  match arg.toList with
  | '-' :: '-' :: _ =>
    match longOptions.find? (·.1 == name), longOptions.filter (·.1.startsWith name) with
    | some (_, o), _ => .option o value
    | none, [] => otherWord arg
    | none, [(_, o)] => .option o value
    | none, _ => .ambiguous
  | '-' :: 'h' :: rest => .option .help (if asksForHelp rest then none else some "")
  | '-' :: _ :: _ => otherWord arg
  | _ => .plain arg

/-- The arguments as words. Behind two hyphens all of them are plain. -/
def wordsOf : List String → List Word
  | [] => []
  | arg :: args => if arg = "--" then .dashes :: args.map .plain else wordOf arg :: wordsOf args

inductive Request where
  | play (i : Invocation)
  | help
  | refused
  deriving Repr, DecidableEq

/-- Reads the words behind the last option. Unless there was a document, the first of them names it;
no others may follow. -/
def finish (i : Invocation) (given : Bool) (extra : Bool) (ws : List Word) : Request :=
  let rest (i : Invocation) (ws : List Word) : Request :=
    if extra ∨ ws ≠ [] then .refused else .play i
  match given, ws with
  | false, .dashes :: .plain text :: ws => rest { i with document := some text } ws
  | false, .dashes :: ws => rest i ws
  | false, .plain text :: .dashes :: ws => rest { i with document := some text } ws
  | false, .plain text :: ws => rest { i with document := some text } ws
  | _, ws => rest i ws

def isOption : Word → Bool
  | .option .. | .unknown => true
  | _ => false

/-- The language written behind an equals sign. Two hyphens are no value, and an absent language is
shown as an empty list. -/
def languageOf (value : String) : String := if value = "--" then "[]" else value

def tracingOf (value : String) : Tracing :=
  if value = "--" then .onStandardError else .toFile value

/-- Reads words in order. `given` tells whether a document has been named, and `extra` whether there
has been a word too many. -/
def read (i : Invocation) (given extra : Bool) : List Word → Request
  | [] => finish i given extra []
  | .option .help (some _) :: _ => .refused
  | .option .help none :: _ => .help
  | .option .language (some value) :: ws =>
    read { i with language := languageOf value } given extra ws
  | .option .language none :: .plain value :: ws => read { i with language := value } given extra ws
  | .option .language none :: _ => .refused
  | .option .debug (some value) :: ws =>
    read { i with tracing := tracingOf value } given extra ws
  | .option .debug none :: .plain value :: ws =>
    read { i with tracing := .toFile value } given extra ws
  | .option .debug none :: ws => read { i with tracing := .onStandardError } given extra ws
  | .unknown :: ws => read i given true ws
  | w :: ws =>
    if (w :: ws).any isOption then
      match w, given with
      | .plain text, false => read { i with document := some text } true extra ws
      | _, _ => read i given true ws
    else finish i given extra (w :: ws)

def ofArguments (args : List String) : Request :=
  let ws := wordsOf args
  if .ambiguous ∈ ws then .refused else read byDefault false false ws

end Invocation

end Fabula

import Fabula.Table
import Fabula.Text.Numeral
import Fabula.Yaml.Fault

set_option autoImplicit false

namespace Fabula

structure Node where
  name : String
  attributes : Table String String
  value : String
  children : List Node
  deriving Repr, Inhabited

inductive Flaw where
  | notXml (reason : String)
  | notYaml (reason : String)
  | notUtf8
  | empty
  /-- A value that is no mapping with one key, as it is shown. -/
  | notNode (shown : String)
  | notInteger (key name raw : String)
  deriving Repr, DecidableEq

def Flaw.message : Flaw → String
  | .notXml reason => "Invalid XML: " ++ reason
  | .notYaml reason => "Invalid YAML: " ++ reason
  | .notUtf8 => "Invalid encoding: the file is not UTF-8"
  | .empty => "Document is empty"
  | .notNode shown => "Expected a single-key mapping for a node, got " ++ shown
  | .notInteger key name raw =>
    "Attribute '" ++ key ++ "' of <" ++ name ++ "> is not an integer: '" ++ raw ++ "'"

/-- Why a text gives no tree: something is wrong with the document, or reading it breaks down. -/
inductive Refusal where
  | flaw (f : Flaw)
  | breakdown (b : Yaml.Breakdown)
  deriving Repr, DecidableEq

namespace Node

def attr? (n : Node) (key : String) : Option String := n.attributes.get? key

def attr (n : Node) (key : String) : String := (n.attr? key).getD ""

/-- An attribute that is present and not empty. -/
def filled? (n : Node) (key : String) : Option String := (n.attr? key).filter (· != "")

/-- An attribute as an integer; an absent or empty one stands for `byDefault`. -/
def integer (n : Node) (key : String) (byDefault : Int) : Except Flaw Int :=
  match n.filled? key with
  | none => pure byDefault
  | some raw =>
    match Text.integer? raw with
    | some i => pure i
    | none => .error (.notInteger key n.name raw)

def child? (n : Node) (name : String) : Option Node := n.children.find? (·.name == name)

end Node

end Fabula

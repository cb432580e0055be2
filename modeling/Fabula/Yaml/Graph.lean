import Fabula.Yaml.Fault
import Fabula.Yaml.Tag

/-!
Documents as graphs. The parts of a document are scalars, sequences and mappings, each with a tag.
They are numbered, and what is made of parts names them by number: an alias is the number of the
part that its anchor marks, which may be a part around the alias.
-/

set_option autoImplicit false

namespace Fabula.Yaml

open Fabula.Text (Wide)

inductive Content where
  | scalar (text : Wide)
  | sequence (items : List Nat)
  | mapping (entries : List (Nat × Nat))
  deriving Repr, DecidableEq

structure Part where
  tag : Tag
  content : Content
  deriving Repr, DecidableEq

abbrev Graph := Array Part

namespace Graph

def part (g : Graph) (n : Nat) : Part := (g[n]?).getD ⟨.null, .scalar []⟩

def tag (g : Graph) (n : Nat) : Tag := (g.part n).tag

def content (g : Graph) (n : Nat) : Content := (g.part n).content

def entries (g : Graph) (n : Nat) : List (Nat × Nat) :=
  match g.content n with
  | .mapping es => es
  | _ => []

def isMapping (g : Graph) (n : Nat) : Bool :=
  match g.content n with
  | .mapping _ => true
  | _ => false

def setContent (g : Graph) (n : Nat) (content : Content) : Graph :=
  g.setIfInBounds n { g.part n with content }

def setTag (g : Graph) (n : Nat) (tag : Tag) : Graph :=
  g.setIfInBounds n { g.part n with tag }

def entryCount (g : Graph) : Nat :=
  g.foldl (fun count p =>
    match p.content with
    | .mapping es => count + es.length
    | _ => count) 0

/-- The text of a scalar, at most `depth` deep: a mapping stands for the value under the key that is
marked so. -/
def textWithin (g : Graph) : Nat → Nat → Except Fault Wide
  | 0, _ => .error (.breakdown .endless)
  | depth + 1, n =>
    match g.content n with
    | .scalar text => .ok text
    | .sequence _ => .error (.malformed "text expected")
    | .mapping es =>
      match es.find? fun e => g.tag e.1 == .byDefault with
      | some (_, v) => g.textWithin depth v
      | none => .error (.malformed "text expected")

def text (g : Graph) (n : Nat) : Except Fault Wide := g.textWithin (g.size + 1) n

end Graph

end Fabula.Yaml

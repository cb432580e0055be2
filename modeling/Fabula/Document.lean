import Fabula.Folder
import Fabula.Text.Block
import Fabula.Text.LowerCase
import Fabula.Xml.Document
import Fabula.Yaml.Meaning
import Fabula.Yaml.Tree

/-!
Documents in files. A file is a text in UTF-8, whose lines may end in any way; the ending of its
name tells in which notation the document is.
-/

set_option autoImplicit false

namespace Fabula

inductive Mishap where
  | denied (d : Denied)
  | notUtf8
  | refused (r : Refusal)
  deriving Repr, DecidableEq

def textOf (octets : Except Denied ByteArray) : Except Mishap String :=
  match octets with
  | .error d => .error (.denied d)
  | .ok octets =>
    match String.fromUTF8? octets with
    | some s => .ok (String.ofList (Text.unifyLineEnds s.toList))
    | none => .error .notUtf8

namespace Yaml.Document

/-- The document of a text that is read a portion at a time, with a fault behind it. A character
that no document may hold counts only when a reader comes to its portion; two portions are read
before it begins. -/
def ofPortions (h : Habits) (text : List Char) (behind : Option Fault) : Except Fault Document :=
  let sound := (text.takeWhile isAllowed).length
  if sound = text.length ∨ sound < 2 * Text.portionSize then ofPart h text behind
  else ofPart h (text.take (sound / Text.portionSize * Text.portionSize)) (some forbidden)

/-- The document in a file. What is no text in it, or no text of a document, counts only when a
reader comes there. -/
def ofOctets (h : Habits) (octets : ByteArray) : Except Fault Document :=
  let unreadable : Fault := .breakdown .unreadable
  match textOf (.ok octets) with
  | .ok text => ofPortions h text.toList none
  | .error _ =>
    match Text.readable? octets with
    | some text => ofPortions h text (some unreadable)
    | none => .error unreadable

end Yaml.Document

/-- How documents are read: in YAML, from a text or from a file, and in XML. -/
structure Readers where
  yaml : List Char → Except Yaml.Fault Yaml.Document
  yamlFile : ByteArray → Except Yaml.Fault Yaml.Document
  xml : List Char → Except Xml.Reason Xml.Element
  /-- How many nodes of a document can be followed into each other. What goes through a tree later
  goes no deeper than the tree, and so needs no bound of its own. -/
  deepest : Nat
  deepest_pos : 0 < deepest
  /-- How many compounds that stand in each other can be shown. -/
  deepestShown : Nat

def Readers.usual : Readers where
  yaml text := Yaml.Document.ofPart .usual text none
  yamlFile := Yaml.Document.ofOctets .usual
  xml := Xml.readElement
  deepest := 495
  deepest_pos := by decide
  deepestShown := 988

namespace Yaml.Tree

def ofText (text : String) (r : Readers := .usual) : Except Refusal Tree :=
  match r.yaml text.toList with
  | .error (.breakdown b) => .error (.breakdown b)
  | .error fault => .error (.flaw (.notYaml fault.message))
  | .ok ⟨.null, _⟩ => .error (.flaw .empty)
  | .ok ⟨v, cs⟩ => ofValueWithin cs r.deepestShown r.deepest v

end Yaml.Tree

namespace Node

def ofYaml (text : String) (r : Readers := .usual) : Except Refusal Node :=
  (Yaml.Tree.ofText text r).map Yaml.Tree.node

def ofXml (text : String) (r : Readers := .usual) : Except Refusal Node :=
  match r.xml text.toList with
  | .ok e => if e.depth ≤ r.deepest then .ok (ofElement e) else .error (.breakdown .tooDeep)
  | .error reason => .error (.flaw (.notXml reason))

def isYamlFile (path : String) : Bool :=
  let ending := Text.lowerCase (Path.ending path)
  ending == ".yaml" || ending == ".yml"

/-- The tree of the document that a file at a path holds. A text that is not in UTF-8 is a flaw of
it. -/
def ofOctets (path : String) (octets : Except Denied ByteArray) (r : Readers := .usual) :
    Except Mishap Node :=
  match textOf octets with
  | .error .notUtf8 => .error (.refused (.flaw .notUtf8))
  | .error m => .error m
  | .ok text =>
    (if isYamlFile path then ofYaml text r else ofXml text r).mapError .refused

def ofFile (f : Folder) (path : String) (r : Readers := .usual) : Except Mishap Node :=
  ofOctets path (f.read (Path.normal path)) r

end Node

end Fabula

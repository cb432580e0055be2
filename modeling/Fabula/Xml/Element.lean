import Fabula.Node
import Fabula.Text.Blank
import Fabula.Xml.Content
import Fabula.Xml.Namespace

set_option autoImplicit false

namespace Fabula

structure Xml.Element where
  name : String
  attributes : Table String String
  text : String
  children : List Xml.Element
  deriving Repr

namespace Xml

def Element.depth : Element → Nat
  | ⟨_, _, _, children⟩ => depths children + 1
where
  depths : List Element → Nat
    | [] => 0
    | e :: es => max (depth e) (depths es)

structure Opened where
  written : List Char
  name : String
  attributes : Table String String
  bindings : Bindings
  text : List Char
  children : List Element

namespace Opened

/-- Text counts until the first child has ended. -/
def addText (o : Opened) (cs : List Char) : Opened :=
  if o.children = [] then { o with text := cs.reverse ++ o.text } else o

def addChild (o : Opened) (e : Element) : Opened := { o with children := e :: o.children }

def close (o : Opened) : Element :=
  ⟨o.name, o.attributes, String.ofList o.text.reverse, o.children.reverse⟩

end Opened

def hasRepeats (names : List (List Char)) : Bool :=
  match names with
  | [] => false
  | n :: ns => ns.contains n || hasRepeats ns

def writtenValue (d : Declarations) (element name value : List Char) :
    Except Reason (List Char) :=
  let declared := d.attributes.find? fun a => a.1 == element && a.2.1 == name
  let plain := (declared.map (·.2.2.1)).getD true
  attributeValue d plain value

def defaults (d : Declarations) (element : List Char) (written : List (List Char)) :
    List (List Char × List Char) :=
  d.attributes.filterMap fun (e, name, _, value) =>
    if e = element ∧ !written.contains name then value.map fun v => (name, v) else none

def openElement (d : Declarations) (b : Bindings) (name : List Char)
    (attributes : List (List Char × List Char)) : Except Reason Opened := do
  let names := attributes.map (·.1)
  if hasRepeats names then .error "repeated attribute"
  let written ← attributes.mapM fun (n, v) => do pure (n, ← writtenValue d name n v)
  let all := written ++ defaults d name names
  let b ← bindAll b all
  let named ← namedAttributes b all
  if hasRepeats (named.map (·.1)) then .error "repeated attribute"
  pure {
    written := name
    name := String.ofList (← elementName b name)
    attributes := named.map fun (n, v) => (String.ofList n, String.ofList v)
    bindings := b
    text := []
    children := [] }

def onlySpace : List Piece → Bool
  | [] => true
  | .text true cs :: pieces => cs.all isSpace && onlySpace pieces
  | _ => false

def assemble (d : Declarations) (outer : List Opened) (o : Opened) :
    List Piece → Except Reason Element
  | [] => .error "unclosed element"
  | .text _ cs :: pieces => assemble d outer (o.addText cs) pieces
  | .start name attributes :: pieces => do
    let inner ← openElement d o.bindings name attributes
    assemble d (o :: outer) inner pieces
  | .finish name :: pieces =>
    if name ≠ o.written then .error "mismatched tag"
    else match outer with
      | [] => if onlySpace pieces then pure o.close else .error "content after the root"
      | parent :: outer => assemble d outer (parent.addChild o.close) pieces

def Element.ofPieces (d : Declarations) : List Piece → Except Reason Element
  | .start name attributes :: pieces => do
    assemble d [] (← openElement d initialBindings name attributes) pieces
  | _ => .error "no root element"

end Xml

namespace Node

def ofElement : Xml.Element → Node
  | ⟨name, attributes, text, children⟩ =>
    ⟨name, attributes, Text.trim text, ofElements children⟩
where
  ofElements : List Xml.Element → List Node
    | [] => []
    | e :: es => ofElement e :: ofElements es

end Node

end Fabula

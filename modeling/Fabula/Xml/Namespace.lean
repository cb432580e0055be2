import Fabula.Xml.Attribute

set_option autoImplicit false

namespace Fabula.Xml

/-- Marks with the namespaces they are bound to, the innermost binding first; the binding of the
empty mark holds for elements without one. -/
abbrev Bindings := List (List Char × List Char)

def xmlNamespace : List Char := "http://www.w3.org/XML/1998/namespace".toList

def bindingNamespace : List Char := "http://www.w3.org/2000/xmlns/".toList

def initialBindings : Bindings := [("xml".toList, xmlNamespace)]

/-- Binds a mark. The mark `xml` and its namespace belong to each other, `xmlns` is never bound, and
only the empty mark may be unbound. -/
def bindMark (mark uri : List Char) (b : Bindings) : Except Reason Bindings :=
  if uri = [] ∧ mark ≠ [] then .error "mark bound to nothing"
  else if mark = "xmlns".toList then .error "reserved mark"
  else if '}' ∈ uri then .error "malformed namespace"
  else if decide (mark = "xml".toList) != decide (uri = xmlNamespace) then
    .error "reserved namespace"
  else if uri = bindingNamespace then .error "reserved namespace"
  else pure ((mark, uri) :: b)

def boundMark? (name : List Char) : Option (List Char) :=
  match splitQualified name with
  | (none, plain) => if plain = "xmlns".toList then some [] else none
  | (some mark, plain) => if mark = "xmlns".toList then some plain else none

def expanded (uri plain : List Char) : List Char :=
  if uri = [] then plain else '{' :: uri ++ '}' :: plain

/-- The full name of an attribute; without a mark it is in no namespace. -/
def attributeName (b : Bindings) (name : List Char) : Except Reason (List Char) :=
  match splitQualified name with
  | (none, plain) => pure plain
  | (some mark, plain) =>
    match b.lookup mark with
    | some uri => pure (expanded uri plain)
    | none => .error "unbound mark"

def elementName (b : Bindings) (name : List Char) : Except Reason (List Char) :=
  match splitQualified name with
  | (none, plain) => pure (expanded ((b.lookup []).getD []) plain)
  | (some mark, plain) =>
    match b.lookup mark with
    | some uri => pure (expanded uri plain)
    | none => .error "unbound mark"

def bindAll (b : Bindings) : List (List Char × List Char) → Except Reason Bindings
  | [] => pure b
  | (name, value) :: rest =>
    match boundMark? name with
    | some mark => do bindAll (← bindMark mark value b) rest
    | none => bindAll b rest

def namedAttributes (b : Bindings) :
    List (List Char × List Char) → Except Reason (List (List Char × List Char))
  | [] => pure []
  | (name, value) :: rest =>
    if (boundMark? name).isSome then namedAttributes b rest
    else do pure ((← attributeName b name, value) :: (← namedAttributes b rest))

end Fabula.Xml

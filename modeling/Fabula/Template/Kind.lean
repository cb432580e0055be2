set_option autoImplicit false

namespace Fabula.Template

inductive Kind where
  | text
  | number
  /-- The kind that all others descend from. -/
  | anything
  | kind
  | row
  | nothing
  | truth
  | mapping
  /-- A mapping that can only be looked at. -/
  | view
  /-- An ability of one value. -/
  | ability
  /-- An ability of one value that operators use. -/
  | operation
  /-- An ability of the values of a kind. -/
  | anyAbility
  | anyOperation
  /-- A part of the values of a kind. -/
  | anyPart
  /-- A part that is kept as it is. -/
  | anySlot
  /-- An ability of a kind itself, whichever asks for it. -/
  | ownAbility
  /-- An ability that belongs to nobody. -/
  | freeAbility
  /-- A kind with an argument. -/
  | applied
  deriving Repr, DecidableEq

namespace Kind

def name : Kind → String
  | text => "str"
  | number => "int"
  | anything => "object"
  | kind => "type"
  | row => "tuple"
  | nothing => "NoneType"
  | truth => "bool"
  | mapping => "dict"
  | view => "mappingproxy"
  | ability => "builtin_function_or_method"
  | operation => "method-wrapper"
  | anyAbility => "method_descriptor"
  | anyOperation => "wrapper_descriptor"
  | anyPart => "getset_descriptor"
  | anySlot => "member_descriptor"
  | ownAbility => "classmethod_descriptor"
  | freeAbility => "staticmethod"
  | applied => "GenericAlias"

def origin : Kind → String
  | applied => "types"
  | _ => "builtins"

def fullName (k : Kind) : String := if k = applied then k.origin ++ "." ++ k.name else k.name

def line : Kind → List Kind
  | anything => [anything]
  | truth => [truth, number, anything]
  | k => [k, anything]

def sizes : Kind → Nat × Nat
  | text => (80, 0)
  | number => (24, 4)
  | anything | nothing => (16, 0)
  | kind => (904, 40)
  | row => (24, 8)
  | truth => (32, 4)
  | mapping | anyPart | anySlot => (48, 0)
  | view => (24, 0)
  | ability | anyAbility | anyOperation | ownAbility => (56, 0)
  | operation | freeAbility => (32, 0)
  | applied => (64, 0)

def flags : Kind → Nat
  | text => 273159424
  | number => 21501184
  | anything => 529664
  | kind => 2148031744
  | row => 71849248
  | nothing => 528640
  | truth => 21500160
  | mapping => 541611328
  | view => 545088
  | ability => 547200
  | operation | anyPart | anySlot | ownAbility => 545152
  | anyAbility => 678272
  | anyOperation => 676224
  | freeAbility => 546048
  | applied => 548096

def offsets : Kind → Nat × Nat
  | kind => (368, 264)
  | ability | applied => (40, 0)
  | freeAbility => (0, 24)
  | _ => (0, 0)

def call? : Kind → Option String
  | anything => some "()"
  | row => some "(iterable=(), /)"
  | _ => none

def takesArgument (k : Kind) : Bool := [kind, row, mapping, view].contains k

end Kind

end Fabula.Template

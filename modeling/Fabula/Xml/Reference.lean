import Fabula.Table
import Fabula.Text.Blank
import Fabula.Text.Numeral
import Fabula.Xml.Name

set_option autoImplicit false

namespace Fabula.Xml

abbrev Reason := String

inductive Entity where
  | internal (text : List Char)
  /-- Its text lies outside of the document. -/
  | external
  /-- It stands for no text at all. -/
  | unparsed
  deriving Repr, DecidableEq

inductive Reference where
  | character (c : Char)
  | entity (name : List Char)
  deriving Repr, DecidableEq

def predefined? (name : List Char) : Option Char :=
  if name = "lt".toList then some '<'
  else if name = "gt".toList then some '>'
  else if name = "amp".toList then some '&'
  else if name = "quot".toList then some '"'
  else if name = "apos".toList then some '\''
  else none

def character? (n : Nat) : Option Char :=
  if n.isValidChar then
    let c := Char.ofNat n
    if isCharacter c then some c else none
  else none

def numbered? (base : Nat) (cs : List Char) : Option (Reference × List Char) :=
  let ds := cs.takeWhile (Text.isAsciiDigit base)
  match ds, cs.dropWhile (Text.isAsciiDigit base) with
  | _ :: _, ';' :: rest => do
    let values ← Text.digits? base ds
    let c ← character? (Text.ofDigits base values)
    pure (.character c, rest)
  | _, _ => none

def reference? (cs : List Char) : Option (Reference × List Char) :=
  match cs with
  | '#' :: 'x' :: rest => numbered? 16 rest
  | '#' :: rest => numbered? 10 rest
  | _ => do
    let (name, rest) ← plainName? cs
    let ';' :: rest := rest | none
    match predefined? name with
    | some c => pure (.character c, rest)
    | none => pure (.entity name, rest)

structure Declarations where
  entities : Table (List Char) Entity
  /-- Per element its attributes: name, whether the value is kept as written, and the default. -/
  attributes : List (List Char × List Char × Bool × Option (List Char))
  /-- Whether there may be declarations that are not read. -/
  incomplete : Bool
  standalone : Bool
  size : Nat
  written : Nat

namespace Declarations

def none (standalone : Bool) (size : Nat) : Declarations := ⟨[], [], false, standalone, size, 0⟩

def mayMiss (d : Declarations) : Bool := d.incomplete && !d.standalone

def entity? (d : Declarations) (name : List Char) : Option Entity := d.entities.get? name

def addEntity (d : Declarations) (name : List Char) (e : Entity) : Declarations :=
  { d with entities := d.entities ++ [(name, e)] }

end Declarations

end Fabula.Xml

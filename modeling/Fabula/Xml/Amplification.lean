import Fabula.Xml.Reference

/-!
How much text a document may write out of its entities. Once the octets that have been read and
those that have been written out of entities are many, they must not be more than a hundred times
those that have been read.
-/

set_option autoImplicit false

namespace Fabula.Xml

def octets (cs : List Char) : Nat := cs.foldl (fun n c => n + c.utf8Size) 0

def addAll (ns : List Nat) : Nat := ns.foldl (· + ·) 0

def referredTo : Nat → List Char → List (List Char)
  | 0, _ | _, [] => []
  | fuel + 1, '<' :: cs =>
    let skipped? :=
      ((after? "!--".toList cs).bind (upTo? "-->".toList)).or <|
        ((after? "![CDATA[".toList cs).bind (upTo? "]]>".toList)).or <|
          (after? "?".toList cs).bind (upTo? "?>".toList)
    match skipped? with
    | some (_, rest) => referredTo fuel rest
    | none => referredTo fuel cs
  | fuel + 1, '&' :: cs =>
    match plainName? cs with
    | some (name, ';' :: rest) => name :: referredTo fuel rest
    | _ => referredTo fuel cs
  | fuel + 1, _ :: cs => referredTo fuel cs

abbrev Extents := Table (List Char) (Nat × List (List Char))

def extents (entities : Table (List Char) Entity) : Extents :=
  entities.map fun (name, e) =>
    match e with
    | .internal text => (name, octets text, referredTo text.length text)
    | _ => (name, 0, [])

def writtenOut (es : Extents) : Nat → Table (List Char) Nat
  | 0 => es.map fun (name, _) => (name, 0)
  | rounds + 1 =>
    let inner := writtenOut es rounds
    es.map fun (name, own, names) =>
      (name, own + addAll (names.map fun n => (inner.get? n).getD 0))

def activation : Nat := 8 * Nat.pow 2 20

def maxAmplification : Nat := 100

def isAmplified (read written : Nat) : Bool :=
  activation ≤ read + written && maxAmplification * read < read + written

namespace Declarations

def weights (d : Declarations) : Table (List Char) Nat :=
  writtenOut (extents d.entities) d.entities.length

def writeOut (d : Declarations) (weights : Table (List Char) Nat) (names : List (List Char))
    (behind : List Char) : Except Reason Declarations :=
  let written := d.written + addAll (names.map fun n => (weights.get? n).getD 0)
  if activation ≤ d.size + written ∧ isAmplified (d.size - octets behind) written then
    .error "too much is written out of entities"
  else .ok { d with written }

end Declarations

end Fabula.Xml

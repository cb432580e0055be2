import Fabula.Xml.Amplification

set_option autoImplicit false

namespace Fabula.Xml

def addSpace (plain : Bool) (done : List Char) : List Char :=
  if !plain && (done.head?.all (· == ' ')) then done else ' ' :: done

def addValue (plain : Bool) (expand : List Char → List Char → Except Reason (List Char)) :
    Nat → List Char → List Char → Except Reason (List Char)
  | _, done, [] => pure done
  | 0, done, _ => pure done
  | fuel + 1, done, '&' :: cs =>
    match reference? cs with
    | none => .error "malformed reference in an attribute"
    | some (.character c, rest) =>
      -- Spaces are collapsed also when they are written as `&#32;`, other characters never.
      addValue plain expand fuel
        (if c = ' ' && cs.head? = some '#' then addSpace plain done else c :: done) rest
    | some (.entity name, rest) => do addValue plain expand fuel (← expand name done) rest
  | fuel + 1, done, c :: cs =>
    if c = '<' then .error "less-than sign in an attribute"
    else addValue plain expand fuel (if isSpace c then addSpace plain done else c :: done) cs

/-- Adds the text of an entity within `depth` others, none of which may come again. -/
def addEntity (d : Declarations) (plain : Bool) :
    Nat → List (List Char) → List Char → List Char → Except Reason (List Char)
  | 0, _, _, _ => .error "recursive entity"
  | depth + 1, opened, name, done =>
    if name ∈ opened then .error "recursive entity"
    else match d.entity? name with
      | none => if d.mayMiss then pure done else .error "undeclared entity"
      | some (.internal text) =>
        addValue plain (addEntity d plain depth (name :: opened)) text.length done text
      | some _ => .error "entity without a text in an attribute"

def attributeValue (d : Declarations) (plain : Bool) (written : List Char) :
    Except Reason (List Char) := do
  let done ← addValue plain (addEntity d plain (d.entities.length + 1) []) written.length [] written
  let done := if plain then done else
    match done with
    | ' ' :: done => done
    | _ => done
  pure done.reverse

/-- The value that an attribute has for a written one with `behind` left of the document, when
what it refers to is written out for the first time. -/
def firstValue (d : Declarations) (plain : Bool) (written behind : List Char) :
    Except Reason (List Char × Declarations) := do
  let d ← match referredTo written.length written with
    | [] => pure d
    | names => d.writeOut d.weights names behind
  pure (← attributeValue d plain written, d)

end Fabula.Xml

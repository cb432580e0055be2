import Fabula.Xml.Element

set_option autoImplicit false

namespace Fabula.Xml

def isDeclared (c : Char) : Bool :=
  ('a' ≤ c && c ≤ 'z') || ('A' ≤ c && c ≤ 'Z') || ('0' ≤ c && c ≤ '9') || c == '.' || c == '-' ||
    c == '_'

def declaredPart (cs : List Char) :
    Except Reason (Option (List Char × List Char) × List Char) :=
  match cs with
  | [] => pure (none, [])
  | c :: _ =>
    if !isSpace c then .error "malformed declaration"
    else match skipSpace cs with
      | [] => pure (none, [])
      | cs =>
        let isPart (c : Char) : Bool := c != '=' && !isSpace c
        let name := cs.takeWhile isPart
        match (afterEquals? (cs.dropWhile isPart)).bind quotedValue? with
        | some (value, rest) =>
          if name ≠ [] ∧ value.all isDeclared then pure (some (name, value), rest)
          else .error "malformed declaration"
        | none => .error "malformed declaration"

def standaloneValue (value : List Char) : Except Reason Bool :=
  if value = "yes".toList then pure true
  else if value = "no".toList then pure false
  else .error "malformed declaration"

/-- What a declaration says of the document standing alone. A version comes first, then an encoding
if it is given, which says nothing about a text that has been decoded. -/
def xmlDeclaration (cs : List Char) : Except Reason Bool := do
  let (version, cs) ← declaredPart cs
  if version.all (·.1 != "version".toList) then .error "declaration without a version"
  let (part, cs) ← declaredPart cs
  let (part, cs) ← match part with
    | some (name, value) =>
      if name = "encoding".toList then
        if value.head?.any Char.isAlpha then declaredPart cs
        else .error "malformed declaration"
      else pure (part, cs)
    | none => pure (none, cs)
  match part with
  | none => pure false
  | some (name, value) =>
    if name = "standalone".toList ∧ skipSpace cs = [] then standaloneValue value
    else .error "malformed declaration"

def prolog : Nat → Bool → Declarations → List Char → Except Reason (Declarations × List Char)
  | 0, _, _, _ => .error "no root element"
  | fuel + 1, typed, d, cs =>
    match skipSpace cs with
    | '<' :: '!' :: '-' :: '-' :: rest => do prolog fuel typed d (← Word.afterComment rest)
    | '<' :: '?' :: rest => do prolog fuel typed d (← Word.afterInstruction rest)
    | '<' :: '!' :: rest =>
      match typed, Word.openingWord rest with
      | false, .ok (.opening keyword, rest) =>
        if keyword = "DOCTYPE".toList then do
          let (d, rest) ← doctype d rest
          prolog fuel true d rest
        else .error "misplaced declaration"
      | _, _ => .error "misplaced declaration"
    | cs => pure (d, cs)

def declarationStart? (cs : List Char) : Option (List Char) :=
  match after? "<?xml".toList cs with
  | some (c :: rest) => if isNameChar c then none else some (c :: rest)
  | _ => none

def readElement (text : List Char) : Except Reason Element := do
  let size := octets text
  let text := match text with
    | '\ufeff' :: rest => rest
    | _ => text
  if !text.all isCharacter then .error "character that no document may hold"
  let text := Text.unifyLineEnds text
  let (standalone, text) ← match declarationStart? text with
    | none => pure (false, text)
    | some rest =>
      match upTo? "?>".toList rest with
      | some (inside, rest) => do pure (← xmlDeclaration inside, rest)
      | none => .error "unfinished declaration"
  let (d, text) ← prolog text.length false (Declarations.none standalone size) text
  Element.ofPieces d (← pieces d text)

end Fabula.Xml

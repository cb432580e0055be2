import Fabula.Xml.Doctype

/-!
The content of a document as a sequence of pieces: text, starts and ends of elements. Comments and
processing instructions leave no piece, and entities leave the pieces of their texts.
-/

set_option autoImplicit false

namespace Fabula.Xml

inductive Piece where
  /-- A text; `written` when it stands in the document as it is. -/
  | text (written : Bool) (cs : List Char)
  /-- The start of an element, with its attributes as they are written. -/
  | start (name : List Char) (attributes : List (List Char × List Char))
  | finish (name : List Char)
  deriving Repr, DecidableEq

inductive Item where
  | piece (p : Piece)
  | reference (name : List Char)
  deriving Repr, DecidableEq

def afterEquals? (cs : List Char) : Option (List Char) :=
  match skipSpace cs with
  | '=' :: rest => some (skipSpace rest)
  | _ => none

def quotedValue? : List Char → Option (List Char × List Char)
  | '"' :: cs => upTo? ['"'] cs
  | '\'' :: cs => upTo? ['\''] cs
  | _ => none

def tagRest : Nat → List Char →
    Except Reason (List (List Char × List Char) × Bool × List Char)
  | 0, _ => .error "unfinished tag"
  | fuel + 1, cs =>
    match cs with
    | '>' :: rest => pure ([], false, rest)
    | '/' :: '>' :: rest => pure ([], true, rest)
    | c :: _ =>
      if isSpace c then
        match skipSpace cs with
        | '>' :: rest => pure ([], false, rest)
        | '/' :: '>' :: rest => pure ([], true, rest)
        | cs =>
          match qualifiedName? cs with
          | none => .error "malformed tag"
          | some (name, rest) =>
            match (afterEquals? rest).bind quotedValue? with
            | none => .error "attribute without a value"
            | some (value, rest) => do
              let (attributes, closed, rest) ← tagRest fuel rest
              pure ((name, value) :: attributes, closed, rest)
      else .error "malformed tag"
    | [] => .error "unfinished tag"

def startTag (fuel : Nat) (cs : List Char) : Except Reason (List Piece × List Char) :=
  match qualifiedName? cs with
  | none => .error "malformed tag"
  | some (name, rest) => do
    let (attributes, closed, rest) ← tagRest fuel rest
    pure (.start name attributes :: (if closed then [.finish name] else []), rest)

def endTag (cs : List Char) : Except Reason (Piece × List Char) :=
  let isPart (c : Char) : Bool := isNameChar c || c == ':'
  match plainName? cs, skipSpace (cs.dropWhile isPart) with
  | some _, '>' :: rest => pure (.finish (cs.takeWhile isPart), rest)
  | _, _ => .error "malformed end tag"

def hasSectionEnd (cs : List Char) : Bool := (upTo? "]]>".toList cs).isSome

def consItem (i : Item) (rest : List Char)
    (more : Except Reason (List (Item × List Char))) : Except Reason (List (Item × List Char)) := do
  pure ((i, rest) :: (← more))

def items : Nat → List Char → Except Reason (List (Item × List Char))
  | _, [] => pure []
  | 0, _ => .error "unfinished content"
  | fuel + 1, '<' :: '!' :: '-' :: '-' :: cs => do items fuel (← Word.afterComment cs)
  | fuel + 1, '<' :: '!' :: cs =>
    match (after? "[CDATA[".toList cs).bind (upTo? "]]>".toList) with
    | some (text, rest) => consItem (.piece (.text false text)) rest (items fuel rest)
    | none => .error "malformed section"
  | fuel + 1, '<' :: '?' :: cs => do items fuel (← Word.afterInstruction cs)
  | fuel + 1, '<' :: '/' :: cs => do
    let (piece, rest) ← endTag cs
    consItem (.piece piece) rest (items fuel rest)
  | fuel + 1, '<' :: cs => do
    let (pieces, rest) ← startTag fuel cs
    pure (pieces.map (fun p => (.piece p, rest)) ++ (← items fuel rest))
  | fuel + 1, '&' :: cs =>
    match reference? cs with
    | none => .error "malformed reference"
    | some (.character c, rest) => consItem (.piece (.text false [c])) rest (items fuel rest)
    | some (.entity name, rest) => consItem (.reference name) rest (items fuel rest)
  | fuel + 1, cs =>
    let isData (c : Char) : Bool := c != '<' && c != '&'
    let data := cs.takeWhile isData
    let rest := cs.dropWhile isData
    if hasSectionEnd data then .error "end of a section without its start"
    else consItem (.piece (.text true data)) rest (items fuel rest)

def piecesOf (expand : List Char → Except Reason (List Piece)) :
    List (Item × List Char) → Except Reason (List Piece)
  | [] => pure []
  | (.piece p, _) :: is => do pure (p :: (← piecesOf expand is))
  | (.reference name, _) :: is => do
    let inner ← expand name
    pure (.text false [] :: inner ++ (← piecesOf expand is))

def balanced : Nat → List Piece → Bool
  | n, [] => n == 0
  | n, .start .. :: pieces => balanced (n + 1) pieces
  | 0, .finish _ :: _ => false
  | n + 1, .finish _ :: pieces => balanced n pieces
  | n, .text .. :: pieces => balanced n pieces

def entityPieces (d : Declarations) :
    Nat → List (List Char) → List Char → Except Reason (List Piece)
  | 0, _, _ => .error "recursive entity"
  | depth + 1, opened, name =>
    if name ∈ opened then .error "recursive entity"
    else match d.entity? name with
      | some (.internal text) => do
        let pieces ←
          piecesOf (entityPieces d depth (name :: opened)) (← items text.length text)
        if balanced 0 pieces then pure pieces else .error "entity with a part of an element"
      | _ => .error "undeclared entity"

def Item.refersTo : Item → List (List Char)
  | .reference name => [name]
  | .piece (.start _ attributes) => attributes.flatMap fun (_, v) => referredTo v.length v
  | .piece _ => []

def pieces (d : Declarations) (cs : List Char) : Except Reason (List Piece) := do
  let is ← items cs.length cs
  let weights := d.weights
  let _ ← is.foldlM (fun d (i, behind) => d.writeOut weights i.refersTo behind) d
  piecesOf (entityPieces d (d.entities.length + 1) []) is

end Fabula.Xml

import Fabula.Xml.Attribute

/-!
Document type declarations. They are read in words: names, literals and marks. A word must be
followed by white space or by a mark that cannot belong to it. All declarations are checked; those
of entities and of attribute lists are kept.
-/

set_option autoImplicit false

namespace Fabula.Xml

inductive Word where
  /-- What begins a declaration, `<!NAME`. -/
  | opening (name : List Char)
  /-- The end of a declaration, `>`. -/
  | closing
  | name (text : List Char)
  /-- A name with one colon. -/
  | qualified (text : List Char)
  /-- Name characters that make no name. -/
  | token (text : List Char)
  /-- A name with a mark of repetition. -/
  | repeated
  | literal (text : List Char)
  /-- A name after `#`. -/
  | keyword (text : List Char)
  | leftParen
  | rightParen
  | rightParenRepeated (mark : Char)
  | bar
  | comma
  | percent
  | leftBracket
  | rightBracket
  /-- A reference to a parameter entity. -/
  | parameter
  | aside
  deriving Repr, DecidableEq

namespace Word

def isNameOrColon (c : Char) : Bool := isNameChar c || c == ':'

def endsName (c : Char) : Bool :=
  isSpace c || c == '>' || c == ')' || c == ',' || c == '|' || c == '[' || c == '%'

def ofRun (run : List Char) : Word :=
  match run with
  | c :: _ =>
    if isNameStart c then
      match splitQualified run with
      | (none, _) => .name run
      | (some _, l :: rest) =>
        if l != ':' && ':' ∉ rest then .qualified run else .token run
      | (some _, []) => .token run
    else .token run
  | [] => .token run

def run (cs : List Char) : Except Reason (Word × List Char) :=
  let word := ofRun (cs.takeWhile isNameOrColon)
  match cs.dropWhile isNameOrColon with
  | c :: rest =>
    if endsName c then pure (word, c :: rest)
    else if c = '?' ∨ c = '*' ∨ c = '+' then
      match word with
      | .token _ => .error "misplaced mark of repetition"
      | _ => pure (.repeated, rest)
    else .error "name runs into something else"
  | [] => .error "unfinished declaration"

def literalWord (quote : Char) (cs : List Char) : Except Reason (Word × List Char) :=
  match upTo? [quote] cs with
  | some (text, c :: rest) =>
    if isSpace c || c == '>' || c == '%' || c == '[' then pure (.literal text, c :: rest)
    else .error "literal runs into something else"
  | _ => .error "unfinished literal"

def rightParenWord (cs : List Char) : Except Reason (Word × List Char) :=
  match cs with
  | c :: rest =>
    if c = '*' ∨ c = '?' ∨ c = '+' then pure (.rightParenRepeated c, rest)
    else if isSpace c || c == '>' || c == ',' || c == '|' || c == ')' then
      pure (.rightParen, c :: rest)
    else .error "parenthesis runs into something else"
  | [] => .error "unfinished declaration"

def percentWord (cs : List Char) : Except Reason (Word × List Char) :=
  match cs with
  | c :: _ =>
    if isSpace c || c == '%' then pure (.percent, cs)
    else match plainName? cs with
      | some (_, ';' :: rest) => pure (.parameter, rest)
      | _ => .error "malformed parameter reference"
  | [] => .error "unfinished declaration"

def keywordWord (cs : List Char) : Except Reason (Word × List Char) :=
  match plainName? cs with
  | some (word, c :: rest) =>
    if isSpace c || c == '>' || c == ')' || c == '|' || c == '%' then
      pure (.keyword word, c :: rest)
    else .error "keyword runs into something else"
  | _ => .error "malformed keyword"

/-- What follows a comment, from behind its opening. Two hyphens must end it. -/
def afterComment (cs : List Char) : Except Reason (List Char) :=
  match upTo? "--".toList cs with
  | some (_, '>' :: rest) => pure rest
  | _ => .error "malformed comment"

def afterInstruction (cs : List Char) : Except Reason (List Char) :=
  match plainName? cs with
  | some (target, rest) =>
    if target.map Char.toLower = "xml".toList then .error "misplaced declaration"
    else match rest with
      | '?' :: '>' :: rest => pure rest
      | c :: _ =>
        if isSpace c then
          match upTo? "?>".toList rest with
          | some (_, rest) => pure rest
          | none => .error "unfinished processing instruction"
        else .error "malformed processing instruction"
      | [] => .error "unfinished processing instruction"
  | none => .error "malformed processing instruction"

def openingWord (cs : List Char) : Except Reason (Word × List Char) :=
  let isLetter (c : Char) : Bool := isNameStart c
  match cs.takeWhile isLetter, cs.dropWhile isLetter with
  | l :: ls, '%' :: c :: rest =>
    if isSpace c || c == '%' then .error "malformed declaration"
    else pure (.opening (l :: ls), '%' :: c :: rest)
  | l :: ls, c :: rest =>
    if isSpace c then pure (.opening (l :: ls), c :: rest) else .error "malformed declaration"
  | _, _ => .error "malformed declaration"

def next (cs : List Char) : Except Reason (Word × List Char) :=
  match skipSpace cs with
  | [] => .error "unfinished declaration"
  | '<' :: '!' :: '-' :: '-' :: rest => do pure (.aside, ← afterComment rest)
  | '<' :: '?' :: rest => do pure (.aside, ← afterInstruction rest)
  | '<' :: '!' :: rest => openingWord rest
  | '>' :: rest => pure (.closing, rest)
  | '(' :: rest => pure (.leftParen, rest)
  | ')' :: rest => rightParenWord rest
  | '|' :: rest => pure (.bar, rest)
  | ',' :: rest => pure (.comma, rest)
  | '[' :: rest => pure (.leftBracket, rest)
  | ']' :: rest => pure (.rightBracket, rest)
  | '%' :: rest => percentWord rest
  | '#' :: rest => keywordWord rest
  | '"' :: rest => literalWord '"' rest
  | '\'' :: rest => literalWord '\'' rest
  | c :: rest =>
    if isNameOrColon c then run (c :: rest) else .error "character that begins no word"

end Word

def isPublic (c : Char) : Bool :=
  c.isAlphanum || c ∈ " \n\r-'()+,./:=?;!*#@$_%".toList

/-- The text that an entity stands for: character references are resolved in its literal, entity
references are left for later, and parameter references are refused. -/
def replacement : Nat → List Char → Except Reason (List Char)
  | _, [] => pure []
  | 0, _ => .error "malformed entity"
  | _ + 1, '%' :: _ => .error "parameter reference in an entity"
  | fuel + 1, '&' :: '#' :: cs =>
    match reference? ('#' :: cs) with
    | some (.character c, rest) => do pure (c :: (← replacement fuel rest))
    | _ => .error "malformed reference in an entity"
  | fuel + 1, '&' :: cs =>
    match plainName? cs with
    | some (name, ';' :: rest) => do pure ('&' :: name ++ ';' :: (← replacement fuel rest))
    | _ => .error "malformed reference in an entity"
  | fuel + 1, c :: cs => do pure (c :: (← replacement fuel cs))

/-- What has been declared so far, and whether further declarations still count. -/
structure Subset where
  declared : Declarations
  counting : Bool

namespace Subset

/-- The first declaration of an entity counts, and none of a predefined one. -/
def addEntity (s : Subset) (name : List Char) (e : Entity) : Subset :=
  if !s.counting || (predefined? name).isSome || (s.declared.entity? name).isSome then s
  else { s with declared := s.declared.addEntity name e }

def addAttribute (s : Subset) (element name : List Char) (plain : Bool)
    (value : Option (List Char)) : Subset :=
  let present := s.declared.attributes.any fun a => a.1 == element && a.2.1 == name
  if !s.counting || (present && value.isSome) then s
  else { s with declared := { s.declared with
    attributes := s.declared.attributes ++ [(element, name, plain, value)] } }

/-- A parameter reference may bring in declarations that are not read. -/
def skipParameter (s : Subset) : Subset :=
  { declared := { s.declared with incomplete := true }, counting := s.declared.standalone }

end Subset

def expect (w : Word) (cs : List Char) : Except Reason (List Char) := do
  let (v, rest) ← Word.next cs
  if v = w then pure rest else .error "unexpected word in a declaration"

def literal (cs : List Char) : Except Reason (List Char × List Char) := do
  match ← Word.next cs with
  | (.literal text, rest) => pure (text, rest)
  | _ => .error "literal expected"

def publicLiteral (cs : List Char) : Except Reason (List Char) := do
  let (text, rest) ← literal cs
  if text.all isPublic then pure rest else .error "malformed public identifier"

def externalId (word : List Char) (cs : List Char) : Except Reason (List Char) := do
  if word = "SYSTEM".toList then pure (← literal cs).2
  else if word = "PUBLIC".toList then pure (← literal (← publicLiteral cs)).2
  else .error "external identifier expected"

def entityValue (s : Subset) (text : List Char) : Except Reason (List Char) :=
  if s.counting then replacement text.length text else pure []

def entityDeclaration (s : Subset) (cs : List Char) : Except Reason (Subset × List Char) := do
  match ← Word.next cs with
  | (.percent, cs) => do
    let (.name _, cs) ← Word.next cs | .error "name expected"
    match ← Word.next cs with
    | (.literal text, cs) => do
      let _ ← entityValue s text
      pure (s, ← expect .closing cs)
    | (.name word, cs) => do pure (s, ← expect .closing (← externalId word cs))
    | _ => .error "entity without a value"
  | (.name name, cs) => do
    match ← Word.next cs with
    | (.literal text, cs) => do
      let value ← entityValue s text
      pure (s.addEntity name (.internal value), ← expect .closing cs)
    | (.name word, cs) => do
      let cs ← externalId word cs
      match ← Word.next cs with
      | (.closing, cs) => pure (s.addEntity name .external, cs)
      | (.name word, cs) => do
        if word ≠ "NDATA".toList then .error "unexpected word in an entity"
        else
          let (.name _, cs) ← Word.next cs | .error "name of a format expected"
          pure (s.addEntity name .unparsed, ← expect .closing cs)
      | _ => .error "unexpected word in an entity"
    | _ => .error "entity without a value"
  | _ => .error "name of an entity expected"

def notationDeclaration (cs : List Char) : Except Reason (List Char) := do
  let (.name _, cs) ← Word.next cs | .error "name expected"
  let (.name word, cs) ← Word.next cs | .error "external identifier expected"
  if word = "SYSTEM".toList then expect .closing (← literal cs).2
  else if word = "PUBLIC".toList then
    let cs ← publicLiteral cs
    match ← Word.next cs with
    | (.closing, cs) => pure cs
    | (.literal _, cs) => expect .closing cs
    | _ => .error "unexpected word in a declaration"
  else .error "external identifier expected"

def enumeration (namesOnly : Bool) : Nat → List Char → Except Reason (List Char)
  | 0, _ => .error "unfinished enumeration"
  | fuel + 1, cs => do
    let cs ← match ← Word.next cs with
      | (.name _, cs) => pure cs
      | (.qualified _, cs) | (.token _, cs) =>
        if namesOnly then .error "name expected" else pure cs
      | _ => .error "value expected"
    match ← Word.next cs with
    | (.bar, cs) => enumeration namesOnly fuel cs
    | (.rightParen, cs) => pure cs
    | _ => .error "unexpected word in an enumeration"

def attributeType (cs : List Char) : Except Reason (Bool × List Char) := do
  match ← Word.next cs with
  | (.leftParen, cs) => do pure (false, ← enumeration false cs.length cs)
  | (.name word, cs) => do
    if word = "CDATA".toList then pure (true, cs)
    else if word = "NOTATION".toList then
      let cs ← expect .leftParen cs
      pure (false, ← enumeration true cs.length cs)
    else if String.ofList word ∈ ["ID", "IDREF", "IDREFS", "ENTITY", "ENTITIES", "NMTOKEN",
        "NMTOKENS"] then pure (false, cs)
    else .error "unknown type of an attribute"
  | _ => .error "type of an attribute expected"

def attributeDefault (s : Subset) (plain : Bool) (cs : List Char) :
    Except Reason (Option (List Char) × Subset × List Char) := do
  let valued (text cs : List Char) : Except Reason (Option (List Char) × Subset × List Char) :=
    if s.counting then do
      let (value, declared) ← firstValue s.declared plain text cs
      pure (some value, { s with declared }, cs)
    else pure (none, s, cs)
  match ← Word.next cs with
  | (.literal text, cs) => valued text cs
  | (.keyword word, cs) => do
    if word = "IMPLIED".toList ∨ word = "REQUIRED".toList then pure (none, s, cs)
    else if word = "FIXED".toList then
      let (text, cs) ← literal cs
      valued text cs
    else .error "unknown default of an attribute"
  | _ => .error "default of an attribute expected"

def attributeList (element : List Char) :
    Nat → Subset → List Char → Except Reason (Subset × List Char)
  | 0, _, _ => .error "unfinished attribute list"
  | fuel + 1, s, cs => do
    match ← Word.next cs with
    | (.closing, cs) => pure (s, cs)
    | (.name name, cs) | (.qualified name, cs) => do
      let (plain, cs) ← attributeType cs
      let (value, s, cs) ← attributeDefault s plain cs
      attributeList element fuel (s.addAttribute element name plain value) cs
    | _ => .error "name of an attribute expected"

/-- The groups of a content model that are open, each with the mark between its parts if one has
been seen; `part` when a name or a group must follow. -/
def contentModel : Nat → List (Option Word) → Bool → List Char → Except Reason (List Char)
  | 0, _, _, _ => .error "unfinished content model"
  | fuel + 1, groups, true, cs => do
    match ← Word.next cs with
    | (.leftParen, cs) => contentModel fuel (none :: groups) true cs
    | (.name _, cs) | (.qualified _, cs) | (.repeated, cs) => contentModel fuel groups false cs
    | _ => .error "unexpected word in a content model"
  | fuel + 1, groups, false, cs => do
    let (word, cs) ← Word.next cs
    match word, groups with
    | .rightParen, [_] | .rightParenRepeated _, [_] => expect .closing cs
    | .rightParen, _ :: groups | .rightParenRepeated _, _ :: groups =>
      contentModel fuel groups false cs
    | .bar, mark :: groups | .comma, mark :: groups =>
      if mark.all (· = word) then contentModel fuel (some word :: groups) true cs
      else .error "mixed content model"
    | _, _ => .error "unexpected word in a content model"

def mixedModel : Nat → Bool → List Char → Except Reason (List Char)
  | 0, _, _ => .error "unfinished content model"
  | fuel + 1, any, cs => do
    match ← Word.next cs with
    | (.rightParenRepeated '*', cs) => expect .closing cs
    | (.rightParen, cs) =>
      if any then .error "unexpected end of a content model" else expect .closing cs
    | (.bar, cs) => do
      match ← Word.next cs with
      | (.name _, cs) | (.qualified _, cs) => mixedModel fuel true cs
      | _ => .error "name expected in a content model"
    | _ => .error "unexpected word in a content model"

def elementDeclaration (cs : List Char) : Except Reason (List Char) := do
  let cs ← match ← Word.next cs with
    | (.name _, cs) | (.qualified _, cs) => pure cs
    | _ => .error "name of an element expected"
  match ← Word.next cs with
  | (.name word, cs) =>
    if word = "EMPTY".toList ∨ word = "ANY".toList then expect .closing cs
    else .error "content model expected"
  | (.leftParen, cs) => do
    match ← Word.next cs with
    | (.keyword word, rest) =>
      if word = "PCDATA".toList then mixedModel rest.length false rest
      else .error "unexpected word in a content model"
    | _ => contentModel (cs.length + 1) [none] true cs
  | _ => .error "content model expected"

def declaration (s : Subset) (keyword : List Char) (cs : List Char) :
    Except Reason (Subset × List Char) := do
  if keyword = "ENTITY".toList then entityDeclaration s cs
  else if keyword = "ATTLIST".toList then
    match ← Word.next cs with
    | (.name element, cs) | (.qualified element, cs) => attributeList element cs.length s cs
    | _ => .error "name of an element expected"
  else if keyword = "ELEMENT".toList then pure (s, ← elementDeclaration cs)
  else if keyword = "NOTATION".toList then pure (s, ← notationDeclaration cs)
  else .error "unknown declaration"

def subset : Nat → Subset → List Char → Except Reason (Subset × List Char)
  | 0, _, _ => .error "unfinished document type"
  | fuel + 1, s, cs => do
    match ← Word.next cs with
    | (.rightBracket, cs) => pure (s, cs)
    | (.aside, cs) => subset fuel s cs
    | (.parameter, cs) => subset fuel s.skipParameter cs
    | (.opening keyword, cs) => do
      let (s, cs) ← declaration s keyword cs
      subset fuel s cs
    | _ => .error "declaration expected"

def doctype (d : Declarations) (cs : List Char) : Except Reason (Declarations × List Char) := do
  let cs ← match ← Word.next cs with
    | (.name _, cs) | (.qualified _, cs) => pure cs
    | _ => .error "name of the root expected"
  let start : Subset := ⟨d, true⟩
  let bracketed (s : Subset) (cs : List Char) : Except Reason (Declarations × List Char) := do
    let (s, cs) ← subset cs.length s cs
    pure (s.declared, ← expect .closing cs)
  match ← Word.next cs with
  | (.closing, cs) => pure (start.declared, cs)
  | (.leftBracket, cs) => bracketed start cs
  | (.name word, cs) => do
    let cs ← externalId word cs
    let s : Subset := { start with declared := { start.declared with incomplete := true } }
    match ← Word.next cs with
    | (.closing, cs) => pure (s.declared, cs)
    | (.leftBracket, cs) => bracketed s cs
    | _ => .error "unexpected word in a document type"
  | _ => .error "unexpected word in a document type"

end Fabula.Xml

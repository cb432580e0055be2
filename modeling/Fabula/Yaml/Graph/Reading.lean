import Fabula.Yaml.Graph
import Fabula.Yaml.Token

set_option autoImplicit false

namespace Fabula.Yaml.Graph

open Fabula.Text (Wide)

structure Feed where
  tokens : List Token
  stop : Fault
  /-- The numbers of the parts that anchors mark. -/
  anchors : Table String Nat
  handles : Table String String
  /-- How many compounds may begin in each other from here on. -/
  room : Nat
  graph : Graph

def defaultHandles : Table String String := [("!", "!"), ("!!", Tag.standardUri)]

abbrev Reader := Feed → Except Fault (Nat × Feed)

namespace Feed

def head (f : Feed) : Except Fault Token :=
  match f.tokens with
  | t :: _ => .ok t
  | [] => .error f.stop

def drop (f : Feed) (n : Nat) : Feed := { f with tokens := f.tokens.drop n }

def unexpected {α : Type} : Except Fault α := .error (.malformed "unexpected token")

def expect (f : Feed) (t : Token) : Except Fault Feed := do
  if (← f.head) = t then pure (f.drop 1) else unexpected

def isAt (f : Feed) (ts : List Token) : Except Fault Bool := do pure (ts.contains (← f.head))

def add (f : Feed) (anchor : Option String) (tag : Tag) (content : Content) : Nat × Feed :=
  let n := f.graph.size
  let anchors := match anchor with
    | some a => f.anchors.put a n
    | none => f.anchors
  (n, { f with anchors, graph := f.graph.push ⟨tag, content⟩ })

def beginCompound (f : Feed) (anchor : Option String) (tag : Tag) (content : Content) :
    Except Fault (Nat × Feed) :=
  let (n, f) := f.add anchor tag content
  match f.room with
  | 0 => .error (.breakdown .tooDeep)
  | room + 1 => .ok (n, { f with room })

def endCompound (f : Feed) (n : Nat) (content : Content) : Feed :=
  { f with graph := f.graph.setContent n content, room := f.room + 1 }

end Feed

/-- An anchor and a tag before a part, in either order. What follows the first is read with it. -/
def properties (f : Feed) : Except Fault (Option String × Option TagMark × Feed) :=
  match f.tokens with
  | [.anchor _] | [.tag _] => .error f.stop
  | .anchor a :: .tag t :: _ => .ok (some a, some t, f.drop 2)
  | .anchor a :: _ => .ok (some a, none, f.drop 1)
  | .tag t :: .anchor a :: _ => .ok (some a, some t, f.drop 2)
  | .tag t :: _ => .ok (none, some t, f.drop 1)
  | _ => .ok (none, none, f)

/-- The full tag that a mark stands for. A lone exclamation mark says as much as no tag, but that
the form of a text counts. -/
inductive Written where
  | absent
  | byForm
  | uri (uri : String)

def written (handles : Table String String) : Option TagMark → Except Fault Written
  | none => .ok .absent
  | some ⟨none, suffix⟩ => .ok (if suffix = "!" then .byForm else .uri suffix)
  | some ⟨some h, suffix⟩ =>
    match handles.get? h with
    | some uri => .ok (if uri ++ suffix = "!" then .byForm else .uri (uri ++ suffix))
    | none => .error (.malformed "undefined handle")

namespace Written

def scalar (plain : Bool) (text : Wide) : Written → Tag
  | absent => if plain then Tag.ofPlain text else .text
  | byForm => Tag.ofPlain text
  | uri u => Tag.ofUri u

def collection (usual : Tag) : Written → Tag
  | uri u => Tag.ofUri u
  | _ => usual

end Written

def absent (f : Feed) : Nat × Feed := f.add none .null (.scalar [])

def checkAnchor (f : Feed) : Option String → Except Fault Unit
  | some a => if f.anchors.has a then .error (.malformed "repeated anchor") else .ok ()
  | none => .ok ()

def unlessAt (ends : List Token) (read : Reader) : Reader := fun f => do
  if ← f.isAt ends then pure (absent f) else read f

def valueUnlessAt (ends : List Token) (read : Reader) : Reader := fun f => do
  if (← f.head) = .value then unlessAt ends read (f.drop 1) else pure (absent f)

mutual

/-- A part. Blocks begin only where `block` holds, and sequences without indentation where `flush`
holds. -/
def node : Nat → Bool → Bool → Reader
  | 0, _, _, _ => Feed.unexpected
  | fuel + 1, block, flush, f =>
    match f.tokens with
    | .alias name :: _ =>
      match f.anchors.get? name with
      | some n => .ok (n, f.drop 1)
      | none => .error (.malformed "undefined alias")
    | _ => do
      let (anchor, tag, g) ← properties f
      let tag ← written g.handles tag
      let token ← g.head
      checkAnchor g anchor
      let sequence (f : Feed) (items : Feed → Except Fault (List Nat × Feed)) :
          Except Fault (Nat × Feed) := do
        let (n, f) ← f.beginCompound anchor (tag.collection .sequence) (.sequence [])
        let (items, f) ← items f
        pure (n, f.endCompound n (.sequence items))
      let mapping (f : Feed) (entries : Feed → Except Fault (List (Nat × Nat) × Feed)) :
          Except Fault (Nat × Feed) := do
        let (n, f) ← f.beginCompound anchor (tag.collection .mapping) (.mapping [])
        let (entries, f) ← entries f
        pure (n, f.endCompound n (.mapping entries))
      let scalar (plain : Bool) (text : Wide) (f : Feed) : Except Fault (Nat × Feed) :=
        .ok (f.add anchor (tag.scalar plain text) (.scalar text))
      match token, block, flush with
      | .scalar plain text, _, _ => scalar plain text (g.drop 1)
      | .flowSequence, _, _ => sequence (g.drop 1) (flowItems fuel true)
      | .flowMapping, _, _ => mapping (g.drop 1) (flowEntries fuel true)
      | .blockSequence, true, _ => sequence (g.drop 1) (blockItems fuel)
      | .blockMapping, true, _ => mapping (g.drop 1) (blockEntries fuel)
      | .blockEntry, _, true => sequence g (flushItems fuel)
      | _, _, _ =>
        -- An anchor or a tag alone marks an empty scalar.
        if g.tokens.length < f.tokens.length then scalar true [] g else Feed.unexpected

def blockItems : Nat → Feed → Except Fault (List Nat × Feed)
  | 0, _ => Feed.unexpected
  | fuel + 1, f => do
    match ← f.head with
    | .blockEntry => do
      let (n, f) ← unlessAt [.blockEntry, .blockEnd] (node fuel true false) (f.drop 1)
      let (ns, f) ← blockItems fuel f
      pure (n :: ns, f)
    | .blockEnd => pure ([], f.drop 1)
    | _ => Feed.unexpected

def flushItems : Nat → Feed → Except Fault (List Nat × Feed)
  | 0, _ => Feed.unexpected
  | fuel + 1, f => do
    match ← f.head with
    | .blockEntry => do
      let (n, f) ←
        unlessAt [.blockEntry, .key, .value, .blockEnd] (node fuel true false) (f.drop 1)
      let (ns, f) ← flushItems fuel f
      pure (n :: ns, f)
    | _ => pure ([], f)

def blockEntries : Nat → Feed → Except Fault (List (Nat × Nat) × Feed)
  | 0, _ => Feed.unexpected
  | fuel + 1, f => do
    let ends := [.key, .value, .blockEnd]
    match ← f.head with
    | .key => do
      let (k, f) ← unlessAt ends (node fuel true true) (f.drop 1)
      let (v, f) ← valueUnlessAt ends (node fuel true true) f
      let (es, f) ← blockEntries fuel f
      pure ((k, v) :: es, f)
    | .blockEnd => pure ([], f.drop 1)
    | _ => Feed.unexpected

/-- The items of a sequence in brackets. An item may be an entry, which stands for a mapping of its
own. -/
def flowItems : Nat → Bool → Feed → Except Fault (List Nat × Feed)
  | 0, _, _ => Feed.unexpected
  | fuel + 1, first, f => do
    if (← f.head) = .flowSequenceEnd then pure ([], f.drop 1)
    else
      let f ← if first then pure f else f.expect .flowEntry
      match ← f.head with
      | .flowSequenceEnd => pure ([], f.drop 1)
      | .key => do
        let (n, f) ← f.beginCompound none .mapping (.mapping [])
        let (k, f) ← unlessAt [.value, .flowEntry, .flowSequenceEnd] (node fuel false false)
          (f.drop 1)
        let (v, f) ← valueUnlessAt [.flowEntry, .flowSequenceEnd] (node fuel false false) f
        let (ns, f) ← flowItems fuel false (f.endCompound n (.mapping [(k, v)]))
        pure (n :: ns, f)
      | _ => do
        let (n, f) ← node fuel false false f
        let (ns, f) ← flowItems fuel false f
        pure (n :: ns, f)

def flowEntries : Nat → Bool → Feed → Except Fault (List (Nat × Nat) × Feed)
  | 0, _, _ => Feed.unexpected
  | fuel + 1, first, f => do
    if (← f.head) = .flowMappingEnd then pure ([], f.drop 1)
    else
      let f ← if first then pure f else f.expect .flowEntry
      match ← f.head with
      | .flowMappingEnd => pure ([], f.drop 1)
      | .key => do
        let (k, f) ← unlessAt [.value, .flowEntry, .flowMappingEnd] (node fuel false false)
          (f.drop 1)
        let (v, f) ← valueUnlessAt [.flowEntry, .flowMappingEnd] (node fuel false false) f
        let (es, f) ← flowEntries fuel false f
        pure ((k, v) :: es, f)
      | _ => do
        let (k, f) ← node fuel false false f
        let (v, f) := absent f
        let (es, f) ← flowEntries fuel false f
        pure ((k, v) :: es, f)

end

/-- The directives of a document. The version must be one of the first kind, and nothing may be
said twice. -/
def directives : Bool → Table String String → List Token →
    Except Fault (Table String String × List Token)
  | versioned, handles, .directive d :: ts =>
    match d with
    | .version major =>
      if versioned then .error (.malformed "repeated version")
      else if major ≠ 1 then .error (.malformed "unknown version")
      else directives true handles ts
    | .handle name uri =>
      if handles.has name then .error (.malformed "repeated handle")
      else directives versioned (handles.put name uri) ts
    | .other => directives versioned handles ts
  | _, handles, ts => .ok (handles, ts)

/-- The rest of a text behind its only document. What begins another one is read before that is
refused. -/
def afterDocument (f : Feed) : Except Fault Unit := do
  let f := { f with tokens := f.tokens.dropWhile (· == Token.documentEnd) }
  if (← f.head) = .textEnd then pure ()
  else
    let (_, tokens) ← directives false [] f.tokens
    let _ ← { f with tokens }.head
    .error (.malformed "more than one document")

def ofFeed (f : Feed) : Except Fault (Option (Nat × Graph)) := do
  let read (f : Feed) : Except Fault (Option (Nat × Graph)) := do
    let (n, f) ← node (3 * f.tokens.length + 3) true false f
    afterDocument f
    pure (some (n, f.graph))
  match ← f.head with
  | .textEnd => pure none
  | .directive _ | .documentStart => do
    let (handles, tokens) ← directives false [] f.tokens
    let own := defaultHandles.filter fun (name, _) => !handles.has name
    let f ← { f with tokens, handles := handles ++ own }.expect .documentStart
    match ← f.head with
    | .directive _ | .documentStart | .documentEnd | .textEnd => do
      afterDocument f
      let (n, f) := absent f
      pure (some (n, f.graph))
    | _ => read f
  | _ => read f

def ofText (deepest : Nat) (text : List Char) (behind : Option Fault) :
    Except Fault (Option (Nat × Graph)) :=
  let (tokens, fault) := tokensOf text behind
  ofFeed ⟨tokens, fault.getD (.malformed "unexpected end"), [], defaultHandles, deepest, #[]⟩

end Fabula.Yaml.Graph

import Fabula.Table
import Fabula.Yaml.Property

/-!
The tokens of a text. Indentation is told by tokens of its own; and since it is only at a colon that
what stands before turns out to be a key, a place is kept for the mark of a key before everything
that may be one.
-/

set_option autoImplicit false

namespace Fabula.Yaml

open Fabula.Text (Wide)

inductive Token where
  | directive (d : Directive)
  | documentStart
  | documentEnd
  | textEnd
  | blockSequence
  | blockMapping
  | blockEnd
  | flowSequence
  | flowSequenceEnd
  | flowMapping
  | flowMappingEnd
  | blockEntry
  | flowEntry
  | key
  | value
  | alias (name : String)
  | anchor (name : String)
  | tag (mark : TagMark)
  | scalar (plain : Bool) (text : Wide)
  deriving Repr, DecidableEq

inductive Slot where
  | token (t : Token)
  | place (number : Nat)
  deriving Repr, DecidableEq

structure PossibleKey where
  place : Nat
  required : Bool
  index : Nat
  line : Nat
  column : Nat
  deriving Repr

/-- A key must fit on one line and in so many characters. -/
def longestKey : Nat := 1024

structure Scan where
  cursor : Cursor
  /-- Back to front. -/
  slots : List Slot
  places : Nat
  flow : Nat
  indent : Int
  /-- The indentations around, the innermost first. -/
  outer : List Int
  keysAllowed : Bool
  /-- Possible keys by the number of brackets around them. -/
  keys : Table Nat PossibleKey
  finished : Bool

namespace Scan

def start (text : List Char) : Scan :=
  let c := Cursor.start text
  let c := if text.head? = some '\ufeff' then c.next else c
  ⟨c, [], 0, 0, -1, [], true, [], false⟩

def put (s : Scan) (t : Token) : Scan := { s with slots := .token t :: s.slots }

/-- White space, comments and line breaks before a token. A line break allows keys again, except
inside brackets. -/
def skipBlank : Nat → Scan → Scan
  | 0, s => s
  | fuel + 1, s =>
    let c := s.cursor.skipWhile (· == ' ')
    let c := if c.rest.head? = some '#' then c.skipLine else c
    match c.lineBreak with
    | ([], c) => { s with cursor := c }
    | (_, c) =>
      skipBlank fuel { s with cursor := c, keysAllowed := s.keysAllowed || s.flow == 0 }

/-- What was required to be a key and is none is an error. -/
def refuse (k : PossibleKey) : Except Fault Unit :=
  if k.required then .error (.malformed "colon expected after a key") else .ok ()

def dropStale (s : Scan) : Except Fault Scan := do
  let isStale (k : PossibleKey) : Bool :=
    k.line != s.cursor.line || k.index + longestKey < s.cursor.index
  (s.keys.filter (isStale ·.2)).forM (refuse ·.2)
  pure { s with keys := s.keys.filter (!isStale ·.2) }

def dropKey (s : Scan) : Except Fault Scan := do
  match s.keys.get? s.flow with
  | some k => refuse k
  | none => pure ()
  pure { s with keys := s.keys.erase s.flow }

def saveKey (s : Scan) : Except Fault Scan := do
  if !s.keysAllowed then pure s
  else
    let s ← s.dropKey
    let c := s.cursor
    let required := s.flow == 0 && s.indent == (c.column : Int)
    pure { s with
      slots := .place s.places :: s.slots
      places := s.places + 1
      keys := s.keys.put s.flow ⟨s.places, required, c.index, c.line, c.column⟩ }

def unwindTo (column : Int) : List Int → Scan → Scan
  | [], s => s
  | i :: outer, s =>
    if column < s.indent then unwindTo column outer ({ s with indent := i, outer }.put .blockEnd)
    else s

def unwind (s : Scan) (column : Int) : Scan :=
  if s.flow = 0 then unwindTo column s.outer s else s

def indentTo (s : Scan) (column : Int) : Bool × Scan :=
  if s.indent < column then (true, { s with outer := s.indent :: s.outer, indent := column })
  else (false, s)

def endBlocks (s : Scan) : Except Fault Scan := do
  let s ← (s.unwind (-1)).dropKey
  pure { s with keysAllowed := false }

def forward (s : Scan) (n : Nat) : Scan := { s with cursor := s.cursor.skip n }

def openFlow (s : Scan) (t : Token) : Except Fault Scan := do
  let s ← s.saveKey
  pure (({ s with flow := s.flow + 1, keysAllowed := true }.forward 1).put t)

def closeFlow (s : Scan) (t : Token) : Except Fault Scan := do
  let s ← s.dropKey
  if s.flow = 0 then .error (.malformed "bracket closed that is not open")
  else pure (({ s with flow := s.flow - 1, keysAllowed := false }.forward 1).put t)

def flowEntry (s : Scan) : Except Fault Scan := do
  let s ← s.dropKey
  pure (({ s with keysAllowed := true }.forward 1).put .flowEntry)

def beginBlock (s : Scan) (t : Token) : Except Fault Scan :=
  if s.flow ≠ 0 then .ok s
  else if !s.keysAllowed then .error (.malformed "entry not allowed here")
  else
    let (begun, s) := s.indentTo s.cursor.column
    .ok (if begun then s.put t else s)

def blockEntry (s : Scan) : Except Fault Scan := do
  let s ← (← s.beginBlock .blockSequence).dropKey
  pure (({ s with keysAllowed := true }.forward 1).put .blockEntry)

def explicitKey (s : Scan) : Except Fault Scan := do
  let s ← (← s.beginBlock .blockMapping).dropKey
  pure (({ s with keysAllowed := s.flow == 0 }.forward 1).put .key)

def fill (place : Nat) (missing : List Token) : List Slot → List Slot
  | [] => []
  | slot :: slots =>
    if slot = .place place then missing.reverse.map .token ++ slots
    else slot :: fill place missing slots

def colon (s : Scan) : Except Fault Scan := do
  match s.keys.get? s.flow with
  | some k =>
    let s := { s with keys := s.keys.erase s.flow, keysAllowed := false }
    let (begun, s) := if s.flow = 0 then s.indentTo (k.column : Int) else (false, s)
    let missing : List Token := if begun then [.blockMapping, .key] else [.key]
    pure (({ s with slots := fill k.place missing s.slots }.forward 1).put .value)
  | none =>
    let s ← (← s.beginBlock .blockMapping).dropKey
    pure (({ s with keysAllowed := s.flow == 0 }.forward 1).put .value)

def keyPart (s : Scan) (read : Cursor → Except Fault (Token × Cursor)) : Except Fault Scan := do
  let s ← s.saveKey
  let (t, c) ← read s.cursor
  pure ({ s with cursor := c, keysAllowed := false }.put t)

def named (make : String → Token) (c : Cursor) : Except Fault (Token × Cursor) := do
  let (name, c) ← Property.name c.next
  pure (make name, c)

def tagged (c : Cursor) : Except Fault (Token × Cursor) := do
  let (mark, c) ← Property.tag c
  pure (.tag mark, c)

def quoted (double : Bool) (c : Cursor) : Except Fault (Token × Cursor) := do
  let (text, c) ← Scalar.quoted double c
  pure (.scalar false text, c)

def block (s : Scan) (fold : Bool) : Except Fault Scan := do
  let s ← s.dropKey
  let (text, c) ← Scalar.block fold s.indent s.cursor
  pure ({ s with cursor := c, keysAllowed := true }.put (.scalar false text))

def plain (s : Scan) : Except Fault Scan := do
  let s ← s.saveKey
  let (text, ended, c) := Scalar.plain (s.flow != 0) s.indent s.cursor
  pure ({ s with cursor := c, keysAllowed := ended }.put (.scalar true text))

def directive (s : Scan) : Except Fault Scan := do
  let s ← s.endBlocks
  let (d, c) ← Property.directive s.cursor
  pure ({ s with cursor := c }.put (.directive d))

def separator (s : Scan) (t : Token) : Except Fault Scan := do
  pure (((← s.endBlocks).forward 3).put t)

def finish (s : Scan) : Except Fault Scan := do
  let s ← s.endBlocks
  pure { s.put .textEnd with keys := [], finished := true }

def beginsPlain (flow : Bool) (c : Char) (rest : List Char) : Bool :=
  if c == '-' then !endsWord rest
  else if c == '?' || c == ':' then !flow && !endsWord rest
  else !(endsWord [c] || c ∈ ",[]\x7b\x7d#&*!|>'\"%@`".toList)

def token (s : Scan) : Except Fault Scan :=
  let flow := s.flow != 0
  match s.cursor.rest with
  | [] => s.finish
  | c :: rest =>
    if c = '%' ∧ s.cursor.column = 0 then s.directive
    else if s.cursor.column = 0 ∧ s.cursor.atSeparator then
      s.separator (if c = '-' then .documentStart else .documentEnd)
    else if c = '[' then s.openFlow .flowSequence
    else if c = '{' then s.openFlow .flowMapping
    else if c = ']' then s.closeFlow .flowSequenceEnd
    else if c = '}' then s.closeFlow .flowMappingEnd
    else if c = ',' then s.flowEntry
    else if c = '-' ∧ endsWord rest then s.blockEntry
    else if c = '?' ∧ (flow ∨ endsWord rest) then s.explicitKey
    else if c = ':' ∧ (flow ∨ endsWord rest) then s.colon
    else if c = '*' then s.keyPart (named .alias)
    else if c = '&' then s.keyPart (named .anchor)
    else if c = '!' then s.keyPart tagged
    else if c = '|' ∧ !flow then s.block false
    else if c = '>' ∧ !flow then s.block true
    else if c = '\'' then s.keyPart (quoted false)
    else if c = '"' then s.keyPart (quoted true)
    else if beginsPlain flow c rest then s.plain
    else .error (.malformed "character that begins no token")

def step (s : Scan) : Except Fault Scan := do
  let s ← s.dropStale
  (s.unwind s.cursor.column).token

def tokens (s : Scan) : List Token :=
  let waiting : Option Nat := (s.keys.map (·.2.place)).min?
  (s.slots.reverse.takeWhile fun
    | .place n => some n != waiting
    | .token _ => true).filterMap fun
    | .place _ => none
    | .token t => some t

/-- How many characters must be there behind a token that begins at `start` for it to be told. At
the start of a line, three show whether a document ends there. -/
def lookedAt (start : Cursor) (s : Scan) : Nat :=
  if start.line != s.cursor.line && !start.rest.head?.any "|>%".toList.contains then
    max 1 (3 - s.cursor.column)
  else match s.slots with
    | .token (.scalar true _) :: _ => if s.cursor.rest.head? = some ':' then 2 else 1
    | _ => 1

def extended (s : Scan) (c : Char) : Scan :=
  { s with cursor.rest := s.cursor.rest ++ [c], cursor.left := s.cursor.left + 1 }

/-- Whether a step fails only since nothing is behind: some character would mend it. -/
def failsForLack (s : Scan) : Bool :=
  s.cursor.left ≤ 1 || "a1 \n-:>'\"!".toList.any fun c =>
    match (s.extended c).step with
    | .ok _ => true
    | .error fault => fault == .textEnds

def reachedEnd (s : Scan) (next : Except Fault Scan) : Bool :=
  s.cursor.left == 0 ||
    (s.cursor.column == 0 && s.cursor.left < 3 && s.cursor.rest.head?.any "-.".toList.contains) ||
    match next with
    | .ok next => next.cursor.left < lookedAt s.cursor next
    | .error fault => fault == .textEnds || s.failsForLack

/-- Reads to the end of the text, or to the first fault. If something follows that is a fault of its
own, this is met as soon as the text has been read so far. What was read before a fault counts as
far as nothing can be missing in it. -/
def run (behind : Option Fault) : Nat → Scan → List Token × Option Fault
  | 0, s => (s.tokens, some (.malformed "unfinished text"))
  | fuel + 1, s =>
    if s.finished then (s.tokens, none)
    else
      let s := s.skipBlank (s.cursor.left + 1)
      let next := s.step
      match behind.filter fun _ => s.reachedEnd next with
      | some fault => (s.tokens, some fault)
      | none =>
        match next.bind fun s => if s.finished then pure s else s.dropStale with
        | .ok s => run behind fuel s
        | .error fault => (s.tokens, some fault)

end Scan

def tokensOf (text : List Char) (behind : Option Fault) : List Token × Option Fault :=
  Scan.run behind (text.length + 2) (Scan.start text)

end Fabula.Yaml

import Fabula.Yaml.Scalar

set_option autoImplicit false

namespace Fabula.Yaml

structure TagMark where
  handle : Option String
  suffix : String
  deriving Repr, DecidableEq

inductive Directive where
  | version (major : Nat)
  | handle (name uri : String)
  | other
  deriving Repr, DecidableEq

namespace Property

def name (c : Cursor) : Except Fault (String × Cursor) :=
  let (word, c) := c.takeWhile isWordPart
  let fits := endsWord c.rest || c.rest.head?.any fun x => x ∈ "?:,]\x7d%@`".toList
  if word ≠ [] && fits then .ok (String.ofList word, c)
  else .error (.malformed "malformed name of an anchor")

def isUriPart (c : Char) : Bool := c.isAlphanum || c ∈ "-;/?:@&=+$,_.!~*'()[]".toList

def octets : Nat → Cursor → Except Fault (List UInt8 × Cursor)
  | 0, c => .ok ([], c)
  | fuel + 1, c =>
    match c.rest with
    | '%' :: _ => do
      let (n, c) ← Scalar.hexadecimal 2 c.next
      let (more, c) ← octets fuel c
      pure (n.toUInt8 :: more, c)
    | _ => .ok ([], c)

def uriParts : Nat → Cursor → Except Fault (List Char × Cursor)
  | 0, c => .ok ([], c)
  | fuel + 1, c =>
    let (run, c) := c.takeWhile isUriPart
    match c.rest with
    | '%' :: _ => do
      let (os, c) ← octets c.left c
      match String.fromUTF8? ⟨os.toArray⟩ with
      | some text =>
        let (more, c) ← uriParts fuel c
        pure (run ++ text.toList ++ more, c)
      | none => .error (.malformed "malformed escape in a tag")
    | _ => .ok (run, c)

def uri (c : Cursor) : Except Fault (String × Cursor) := do
  let (text, after) ← uriParts (c.left + 1) c
  if after.index = c.index then .error (.malformed "malformed tag")
  else pure (String.ofList text, after)

def handle (c : Cursor) : Except Fault (String × Cursor) :=
  match c.rest with
  | '!' :: ' ' :: _ => .ok ("!", c.next)
  | '!' :: _ =>
    let (word, c) := c.next.takeWhile isWordPart
    if c.rest.head? = some '!' then .ok (String.ofList ('!' :: word ++ ['!']), c.next)
    else .error (.malformed "malformed handle")
  | _ => .error (.malformed "malformed handle")

/-- Whether another exclamation mark follows before the next space, so that a tag has a handle with
a word. -/
def hasHandle (cs : List Char) : Bool :=
  (cs.takeWhile fun x => x != ' ' && !isBreak x).contains '!'

def tag (c : Cursor) : Except Fault (TagMark × Cursor) := do
  let (mark, c) ← match c.rest.drop 1 with
    | '<' :: _ => do
      let (text, c) ← uri (c.skip 2)
      if c.rest.head? = some '>' then pure (TagMark.mk none text, c.next)
      else .error (.malformed "unclosed tag")
    | rest =>
      if endsWord rest then pure (TagMark.mk none "!", c.next)
      else do
        let (h, c) ← if hasHandle rest then handle c else pure ("!", c.next)
        let (text, c) ← uri c
        pure (TagMark.mk (some h) text, c)
  if endsField c.rest then pure (mark, c)
  else .error (.malformed "tag runs into something else")

def number (c : Cursor) : Except Fault (Nat × Cursor) :=
  let (digits, c) := c.takeWhile Char.isDigit
  if digits = [] then .error (.malformed "number expected")
  else match Text.naturalIn? 10 digits with
    | some n => .ok (n, c)
    | none => .error (.breakdown .noNumber)

def endsDirective (d : Directive) (c : Cursor) : Except Fault (Directive × Cursor) :=
  if endsField c.rest then .ok (d, c) else .error (.malformed "malformed directive")

def directive (c : Cursor) : Except Fault (Directive × Cursor) := do
  let (word, c) := c.next.takeWhile isWordPart
  if word = [] ∨ !endsField c.rest then .error (.malformed "malformed directive")
  else
    let spaces (c : Cursor) := c.skipWhile (· == ' ')
    let (d, c) ←
      if word = "YAML".toList then do
        let (major, c) ← number (spaces c)
        if c.rest.head? ≠ some '.' then .error (.malformed "malformed version")
        else
          let (_, c) ← number c.next
          endsDirective (.version major) c
      else if word = "TAG".toList then do
        let (h, c) ← handle (spaces c)
        if c.rest.head? ≠ some ' ' then .error (.malformed "malformed directive")
        else
          let (text, c) ← uri (spaces c)
          endsDirective (.handle h text) c
      else pure (.other, c.skipLine)
    pure (d, ← c.restOfLine)

end Property

end Fabula.Yaml

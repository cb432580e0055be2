import Fabula.Text.Wide
import Fabula.Yaml.Cursor

set_option autoImplicit false

namespace Fabula.Yaml

open Fabula.Text (Point Wide)

namespace Scalar

def folded (lineBreak breaks : List Char) : List Char :=
  if lineBreak ≠ ['\n'] then lineBreak ++ breaks
  else if breaks = [] then [' ']
  else breaks

def escape? : Char → Option Char
  | '0' => some '\x00'
  | 'a' => some '\x07'
  | 'b' => some '\x08'
  | 't' | '\t' => some '\t'
  | 'n' => some '\n'
  | 'v' => some '\x0b'
  | 'f' => some '\x0c'
  | 'r' => some '\r'
  | 'e' => some '\x1b'
  | ' ' => some ' '
  | '"' => some '"'
  | '\\' => some '\\'
  | '/' => some '/'
  | 'N' => some '\x85'
  | '_' => some '\xa0'
  | 'L' => some '\u2028'
  | 'P' => some '\u2029'
  | _ => none

def escapeDigits? : Char → Option Nat
  | 'x' => some 2
  | 'u' => some 4
  | 'U' => some 8
  | _ => none

def numbered (n : Nat) : Except Fault Point :=
  if 0x80000000 ≤ n then .error (.breakdown .tooLarge)
  else if 0x110000 ≤ n then .error (.breakdown .noCharacter)
  else if n.isValidChar then .ok (.char (Char.ofNat n))
  else .ok (.half n)

def hexadecimal (count : Nat) (c : Cursor) : Except Fault (Nat × Cursor) :=
  let digits := c.rest.take count
  match Text.digits? 16 digits with
  | some values =>
    if digits.length = count ∧ digits.all (Text.isAsciiDigit 16) then
      .ok (Text.ofDigits 16 values, c.skip count)
    else .error (.malformed "hexadecimal digit expected")
  | none => .error (.malformed "hexadecimal digit expected")

def quotedBreaks : Nat → Cursor → Except Fault (List Char × Cursor)
  | 0, c => .ok ([], c)
  | fuel + 1, c =>
    if c.atSeparator then .error (.malformed "document ends inside quotes")
    else
      let c := c.skipWhile isSpace
      match c.lineBreak with
      | ([], c) => .ok ([], c)
      | (b, c) => do
        let (breaks, c) ← quotedBreaks fuel c
        pure (b ++ breaks, c)

def quotedSpaces (c : Cursor) : Except Fault (List Char × Cursor) :=
  let (spaces, c) := c.takeWhile isSpace
  match c.rest, c.lineBreak with
  | [], _ => .error .textEnds
  | _, ([], c) => .ok (spaces, c)
  | _, (b, c) => do
    let (breaks, c) ← quotedBreaks c.left c
    pure (folded b breaks, c)

def isQuotedPart (c : Char) : Bool :=
  !(c == '\'' || c == '"' || c == '\\' || isSpace c || isBreak c)

def escaped (c : Cursor) : Except Fault (Wide × Cursor) :=
  match c.rest with
  | [] => .error .textEnds
  | x :: _ =>
    match escape? x, escapeDigits? x with
    | some y, _ => .ok ([.char y], c.next)
    | none, some count => do
      let (n, c) ← hexadecimal count c.next
      pure ([← numbered n], c)
    | none, none =>
      if isBreak x then do
        let c := c.lineBreak.2
        let (breaks, c) ← quotedBreaks c.left c
        pure (.ofChars breaks, c)
      else .error (.malformed "unknown escape")

def quotedRun (double : Bool) : Nat → Cursor → Except Fault (Wide × Cursor)
  | 0, c => .ok ([], c)
  | fuel + 1, c =>
    let (run, c) := c.takeWhile isQuotedPart
    let run := Wide.ofChars run
    let onwards (part : Wide) (c : Cursor) : Except Fault (Wide × Cursor) := do
      let (more, c) ← quotedRun double fuel c
      pure (run ++ part ++ more, c)
    match c.rest with
    | '\'' :: '\'' :: _ => onwards [.char '\''] (if double then c.next else c.skip 2)
    | '\'' :: _ => if double then onwards [.char '\''] c.next else .ok (run, c)
    | '"' :: _ => if double then .ok (run, c) else onwards [.char '"'] c.next
    | '\\' :: _ =>
      if double then do
        let (part, c) ← escaped c.next
        onwards part c
      else onwards [.char '\\'] c.next
    | _ => .ok (run, c)

def quotedRest (double : Bool) : Nat → Cursor → Except Fault (Wide × Cursor)
  | 0, _ => .error .textEnds
  | fuel + 1, c => do
    let (run, c) ← quotedRun double (c.left + 1) c
    if c.rest.head? == some (if double then '"' else '\'') then pure (run, c.next)
    else
      let (spaces, c) ← quotedSpaces c
      let (more, c) ← quotedRest double fuel c
      pure (run ++ Wide.ofChars spaces ++ more, c)

def quoted (double : Bool) (c : Cursor) : Except Fault (Wide × Cursor) :=
  quotedRest double (c.left + 1) c.next

inductive Chomp where
  | strip
  | clip
  | keep
  deriving Repr, DecidableEq

def chomp? (c : Cursor) : Option Chomp × Cursor :=
  match c.rest with
  | '+' :: _ => (some .keep, c.next)
  | '-' :: _ => (some .strip, c.next)
  | _ => (none, c)

def indentation? (c : Cursor) : Except Fault (Option Nat × Cursor) :=
  match c.rest with
  | x :: _ =>
    if !x.isDigit then .ok (none, c)
    else if x = '0' then .error (.malformed "indentation of zero")
    else .ok (some (x.toNat - '0'.toNat), c.next)
  | [] => .ok (none, c)

def blockMarks (c : Cursor) : Except Fault (Chomp × Option Nat × Cursor) := do
  let (before, c) := chomp? c
  let (indent, c) ← indentation? c
  let (after, c) := if before = none ∧ indent.isSome then chomp? c else (none, c)
  if endsField c.rest then pure ((before.or after).getD .clip, indent, c)
  else .error (.malformed "unexpected mark of a block")

/-- Empty lines before a block whose indentation is not written: their breaks, and the largest
indentation among them and the first line. -/
def leadingBreaks : Nat → Nat → Cursor → List Char × Nat × Cursor
  | 0, deepest, c => ([], deepest, c)
  | fuel + 1, deepest, c =>
    match c.rest with
    | ' ' :: _ =>
      let c := c.next
      leadingBreaks fuel (max deepest c.column) c
    | _ =>
      match c.lineBreak with
      | ([], c) => ([], deepest, c)
      | (b, c) =>
        let (breaks, deepest, c) := leadingBreaks fuel deepest c
        (b ++ breaks, deepest, c)

def skipIndent (indent : Nat) (c : Cursor) : Cursor :=
  c.skip (min (c.rest.takeWhile (· == ' ')).length (indent - c.column))

def blockBreaks (indent : Nat) : Nat → Cursor → List Char × Cursor
  | 0, c => ([], c)
  | fuel + 1, c =>
    match (skipIndent indent c).lineBreak with
    | ([], c) => ([], c)
    | (b, c) =>
      let (breaks, c) := blockBreaks indent fuel c
      (b ++ breaks, c)

def atSpace (c : Cursor) : Bool := c.rest.head?.any isSpace

def blockLines (fold : Bool) (indent : Nat) (chomp : Chomp) :
    Nat → List Char → Cursor → List Char × Cursor
  | 0, _, c => ([], c)
  | fuel + 1, breaks, c =>
    let spaced := atSpace c
    let (line, c) := c.takeWhile (!isBreak ·)
    let (lineBreak, c) := c.lineBreak
    let (following, c) := blockBreaks indent c.left c
    if c.column = indent ∧ c.rest ≠ [] then
      let join :=
        if fold && lineBreak == ['\n'] && !spaced && !atSpace c then
          if following = [] then [' '] else []
        else lineBreak
      let (more, c) := blockLines fold indent chomp fuel following c
      (breaks ++ line ++ join ++ more, c)
    else
      let tail := match chomp with
        | .strip => []
        | .clip => lineBreak
        | .keep => lineBreak ++ following
      (breaks ++ line ++ tail, c)

def block (fold : Bool) (outer : Int) (c : Cursor) : Except Fault (Wide × Cursor) := do
  let (chomp, written, c) ← blockMarks c.next
  let c ← c.restOfLine
  let least := (max (outer + 1) 1).toNat
  let (breaks, indent, c) := match written with
    | none =>
      let (breaks, deepest, c) := leadingBreaks c.left 0 c
      (breaks, max least deepest, c)
    | some n =>
      let indent := least + n - 1
      let (breaks, c) := blockBreaks indent c.left c
      (breaks, indent, c)
  if c.column = indent ∧ c.rest ≠ [] then
    let (text, c) := blockLines fold indent chomp c.left breaks c
    pure (.ofChars text, c)
  else pure (if chomp = .keep then .ofChars breaks else [], c)

def endsPlain (flow : Bool) (cs : List Char) : Bool :=
  match cs with
  | ':' :: rest =>
    endsWord rest || (flow && rest.head?.any fun c => c ∈ [',', '[', ']', '{', '}'])
  | c :: _ => endsWord cs || (flow && c ∈ [',', '?', '[', ']', '{', '}'])
  | [] => true

def plainLength (flow : Bool) : List Char → Nat
  | [] => 0
  | c :: cs => if endsPlain flow (c :: cs) then 0 else plainLength flow cs + 1

def plainBreaks : Nat → Cursor → Option (List Char) × Cursor
  | 0, c => (some [], c)
  | fuel + 1, c =>
    if c.atSeparator then (none, c)
    else
      let c := c.skipWhile (· == ' ')
      match c.lineBreak with
      | ([], c) => (some [], c)
      | (b, c) =>
        let (breaks, c) := plainBreaks fuel c
        (breaks.map (b ++ ·), c)

/-- What a plain scalar is continued with, whether a line ended, and what follows; nothing if there
is no white space, or the document ends. -/
def plainSpaces (c : Cursor) : List Char × Bool × Cursor :=
  let (spaces, c) := c.takeWhile (· == ' ')
  match c.lineBreak with
  | ([], c) => (spaces, false, c)
  | (b, c) =>
    match plainBreaks (c.left + 1) c with
    | (none, c) => ([], true, c)
    | (some breaks, c) => (folded b breaks, true, c)

def plainRest (flow : Bool) (indent : Int) :
    Nat → List Char → Bool → Cursor → List Char × Bool × Cursor
  | 0, _, ended, c => ([], ended, c)
  | fuel + 1, spaces, ended, c =>
    let n := plainLength flow c.rest
    if c.rest.head? == some '#' || n == 0 then ([], ended, c)
    else
      let run := c.rest.take n
      let (following, ended, c) := plainSpaces (c.skip n)
      if following = [] ∨ c.rest.head? = some '#' ∨ (!flow ∧ c.column < indent) then
        (spaces ++ run, ended, c)
      else
        let (more, ended, c) := plainRest flow indent fuel following ended c
        (spaces ++ run ++ more, ended, c)

def plain (flow : Bool) (outer : Int) (c : Cursor) : Wide × Bool × Cursor :=
  let (text, ended, c) := plainRest flow (outer + 1) (c.left + 1) [] false c
  (.ofChars text, ended, c)

end Scalar

end Fabula.Yaml

import Fabula.Template.Value

/-!
How a field of a template is laid out: fill, alignment, sign, width, grouping of digits, precision
and kind. A layout is written `[[fill]align][sign][z][#][0][width][grouping][.precision][kind]`.
-/

set_option autoImplicit false

namespace Fabula.Template

open Fabula.Text

inductive Align where
  | left
  | right
  | centre
  /-- Filled between the sign and the digits. -/
  | inside
  deriving Repr, DecidableEq

def Align.ofChar? : Char → Option Align
  | '<' => some .left
  | '>' => some .right
  | '^' => some .centre
  | '=' => some .inside
  | _ => none

structure Layout where
  fill : Char
  align : Align
  sign : Option Char
  plainZero : Bool
  alternate : Bool
  width : Nat
  grouping : Option Char
  precision : Option Nat
  kind : Char
  deriving Repr, DecidableEq

namespace Layout

def count? (cs : List Char) : Option (Option Nat × List Char) :=
  let ds := (cs.takeWhile fun c => (decimalDigit? c).isSome).filterMap decimalDigit?
  let rest := cs.dropWhile fun c => (decimalDigit? c).isSome
  let n := ofDigits 10 ds
  if ds = [] then some (none, rest) else if n ≤ Value.maxCount then some (some n, rest) else none

def fillAndAlign (byDefault : Align) : List Char → Char × Option Align × Align × List Char
  | f :: a :: cs =>
    match Align.ofChar? a, Align.ofChar? f with
    | some a, _ => (f, some a, a, cs)
    | none, some f => (' ', some f, f, a :: cs)
    | none, none => (' ', none, byDefault, f :: a :: cs)
  | [a] =>
    match Align.ofChar? a with
    | some a => (' ', some a, a, [])
    | none => (' ', none, byDefault, [a])
  | [] => (' ', none, byDefault, [])

def signMark : List Char → Option Char × List Char
  | c :: cs => if c = '+' ∨ c = '-' ∨ c = ' ' then (some c, cs) else (none, c :: cs)
  | [] => (none, [])

def flag (c : Char) : List Char → Bool × List Char
  | d :: cs => if d = c then (true, cs) else (false, d :: cs)
  | [] => (false, [])

def groupingMark? (cs : List Char) : Option (Option Char × List Char) :=
  let (comma, cs) := flag ',' cs
  let (underscore, cs) := flag '_' cs
  if comma && underscore then none
  else if underscore && (flag ',' cs).1 then none
  else some (if comma then some ',' else if underscore then some '_' else none, cs)

def precision? (cs : List Char) : Option (Option Nat × List Char) :=
  match cs with
  | '.' :: cs => do
    let (some n, cs) ← count? cs | none
    pure (some n, cs)
  | _ => some (none, cs)

def groupingFits (grouping : Option Char) (kind : Char) : Bool :=
  match grouping with
  | none => true
  | some mark =>
    kind ∈ ['d', 'e', 'f', 'g', 'E', 'F', 'G', '%'] ||
      (mark == '_' && kind ∈ ['b', 'o', 'x', 'X'])

/-- Whether a fill was given is read off the second character; a zero before the width fills with
zeros if none was, and inside a number if no alignment was given either. -/
def parse? (byDefault : Align) (defaultKind : Char) (cs : List Char) : Option Layout := do
  let fillGiven := match cs with
    | _ :: a :: _ => (Align.ofChar? a).isSome
    | _ => false
  let (fill, given, align, cs) := fillAndAlign byDefault cs
  let (sign, cs) := signMark cs
  let (plainZero, cs) := flag 'z' cs
  let (alternate, cs) := flag '#' cs
  let (zero, cs) := if fillGiven then (false, cs) else flag '0' cs
  let (width, cs) ← count? cs
  let (grouping, cs) ← groupingMark? cs
  let (precision, cs) ← precision? cs
  let kind ← match cs with
    | [] => some defaultKind
    | [k] => some k
    | _ => none
  if groupingFits grouping kind then
    pure {
      fill := if zero then '0' else fill
      align := if zero && given.isNone && byDefault = .right then .inside else align
      sign, plainZero, alternate, width := width.getD 0, grouping, precision, kind }
  else none

def spread (align : Align) (missing : Nat) : Nat × Nat × Nat :=
  match align with
  | .left => (0, 0, missing)
  | .right => (missing, 0, 0)
  | .centre => (missing / 2, 0, missing - missing / 2)
  | .inside => (0, missing, 0)

def maxWidth : Nat := Nat.pow 2 32

def checked {α : Type} (l : Layout) (written : Unit → α) : Except Fault α :=
  if maxWidth < l.width then .error .tooWide else .ok (written ())

def surround (l : Layout) (lead body : List Char) : List Char :=
  let (a, b, c) := spread l.align (l.width - (lead.length + body.length))
  List.replicate a l.fill ++ lead ++ List.replicate b l.fill ++ body ++ List.replicate c l.fill

def text (l : Layout) (cs : List Char) : Except Fault (List Char) :=
  if l.sign.isSome || l.plainZero || l.alternate || l.align = .inside || l.kind != 's' then
    .error .malformed
  else
    l.checked fun _ => l.surround [] (match l.precision with
      | some n => cs.take n
      | none => cs)

def groupFrom (mark : Char) (size : Nat) : Nat → Nat → List Char → List Char
  | 0, _, ds => ds
  | fuel + 1, least, ds =>
    let here := min size (max ds.length (max least 1))
    let group := ds.take here
    let zeros := here - group.length
    let rest := ds.drop here
    let least := least - here
    group ++ List.replicate zeros '0' ++
      (if rest = [] ∧ least = 0 then [] else mark :: groupFrom mark size fuel (least - 1) rest)

def grouped (mark : Char) (size least : Nat) (ds : List Char) : List Char :=
  (groupFrom mark size (ds.length + least) least ds.reverse).reverse

def number (l : Layout) (negative : Bool) (mark whole rest : List Char) : List Char :=
  let sign := if negative then ['-'] else
    match l.sign with
    | some '+' => ['+']
    | some ' ' => [' ']
    | _ => []
  let lead := sign ++ mark
  let least :=
    if l.fill = '0' ∧ l.align = .inside then l.width - (lead.length + rest.length) else 0
  let whole := match l.grouping with
    | some mark =>
      if whole = [] then []
      else grouped mark (if l.kind ∈ ['b', 'o', 'x', 'X'] then 4 else 3) least whole
    | none => whole
  l.surround lead (whole ++ rest)

end Layout

end Fabula.Template

import Fabula.Template.Layout
import Fabula.Decimal.Shortest

set_option autoImplicit false

namespace Fabula.Template

open Fabula.Text Fabula.Decimal

def nearestFloat? (n : Nat) : Option Nat := (Binary64.ofNat n).integer?.map Int.toNat

def fixedParts (alternate : Bool) (n places : Nat) : List Char × List Char :=
  (numeralIn 10 n,
    if places = 0 then (if alternate then ['.'] else []) else '.' :: List.replicate places '0')

def leadingDigits (n count : Nat) : List Char × Nat :=
  let ds := numeralIn 10 n
  if ds.length ≤ count then (ds ++ List.replicate (count - ds.length) '0', ds.length - 1)
  else
    let ds' := numeralIn 10 (roundDiv n (Nat.pow 10 (ds.length - count)))
    (ds'.take count, ds.length - 1 + (ds'.length - count))

def exponentPart (mark : Char) (power : Nat) : List Char :=
  mark :: '+' :: paddedNumeral 10 2 power

def scientificParts (alternate : Bool) (mark : Char) (n places : Nat) : List Char × List Char :=
  let (ds, power) := leadingDigits n (places + 1)
  (ds.take 1,
    (if ds.drop 1 = [] then (if alternate then ['.'] else []) else '.' :: ds.drop 1) ++
      exponentPart mark power)

def generalParts (alternate : Bool) (mark : Char) (n count : Nat) : List Char × List Char :=
  let count := max count 1
  let (ds, power) := leadingDigits n count
  if power < count then
    let places := count - 1 - power
    (ds.take (power + 1), if alternate then '.' :: List.replicate places '0' else [])
  else
    let fraction := ds.drop 1
    let fraction :=
      if alternate then fraction else (fraction.reverse.dropWhile (· = '0')).reverse
    (ds.take 1, (if fraction = [] then (if alternate then ['.'] else []) else '.' :: fraction) ++
      exponentPart mark power)

def maxPlaces : Nat := Nat.pow 2 31 - 1

def roomForPlaces : Nat := Nat.pow 2 28

/-- The digits of a number under a floating-point kind. A hundred times a number may be too large
for a floating-point number, and is infinite then. -/
def floatParts (l : Layout) (n : Nat) : Except Fault (List Char × List Char) :=
  let places := l.precision.getD 6
  if !("eEfFgG%".toList.contains l.kind) then .error .malformed
  else match nearestFloat? n with
  | none => .error .tooLarge
  | some n =>
    if maxPlaces < places then .error .malformed
    else if roomForPlaces < places then .error .tooWide
    else match l.kind with
    | 'e' => .ok (scientificParts l.alternate 'e' n places)
    | 'E' => .ok (scientificParts l.alternate 'E' n places)
    | 'g' => .ok (generalParts l.alternate 'e' n places)
    | 'G' => .ok (generalParts l.alternate 'E' n places)
    | '%' =>
      match nearestFloat? (n * 100) with
      | none => .ok ([], "inf%".toList)
      | some n =>
        let (whole, rest) := fixedParts l.alternate n places
        .ok (whole, rest ++ ['%'])
    | _ => .ok (fixedParts l.alternate n places)

def upperAscii (cs : List Char) : List Char := cs.map Char.toUpper

def integerParts? (l : Layout) (n : Nat) : Option (List Char × List Char) :=
  let marked (letter : Char) := if l.alternate then ['0', letter] else []
  match l.kind with
  | 'd' | 'n' => some ([], numeralIn 10 n)
  | 'b' => some (marked 'b', numeralIn 2 n)
  | 'o' => some (marked 'o', numeralIn 8 n)
  | 'x' => some (marked 'x', numeralIn 16 n)
  | 'X' => some (marked 'X', upperAscii (numeralIn 16 n))
  | _ => none

/-- A number that is written as a character stands by itself: no sign, no mark. -/
def character (l : Layout) (n : Int) : Except Fault (List Char) :=
  if l.sign.isSome || l.alternate then .error .malformed
  else if n < 0 ∨ 0x110000 ≤ n then .error .tooLarge
  else l.checked fun _ => l.surround [] [Char.ofNat n.toNat]

def Layout.integer (l : Layout) (n : Int) : Except Fault (List Char) :=
  let whole := integerParts? l n.natAbs
  if (whole.isSome ∨ l.kind = 'c') ∧ (l.precision.isSome ∨ l.plainZero) then .error .malformed
  else if (l.kind = 'd' ∨ l.kind = 'n') ∧ tooLong ≤ n.natAbs then .error .tooLong
  else match whole with
  | some (mark, ds) => l.checked fun _ => l.number (n < 0) mark ds []
  | none =>
    if l.kind = 'c' then character l n
    else do
      let (whole, rest) ← floatParts l n.natAbs
      l.checked fun _ => l.number (n < 0) [] whole rest

end Fabula.Template

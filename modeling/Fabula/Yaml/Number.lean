import Fabula.Decimal.Reading
import Fabula.Text.LowerCase
import Fabula.Yaml.Fault
import Fabula.Yaml.Tag

set_option autoImplicit false

namespace Fabula.Yaml

open Fabula.Decimal

namespace Number

def withoutUnderscores (s : String) : List Char := s.toList.filter (· != '_')

def isNegative (cs : List Char) : Bool := cs.head? == some '-'

def ofGroups (ns : List Int) : Int := ns.foldr (fun n rest => n + 60 * rest) 0

def allSome {α : Type} : List (Option α) → Option (List α)
  | [] => some []
  | none :: _ => none
  | some a :: rest => (allSome rest).map (a :: ·)

def natural? (cs : List Char) : Option Int :=
  match cs with
  | '0' :: 'b' :: ds => Text.integerIn? 2 ds
  | '0' :: 'x' :: ds => Text.integerIn? 16 ds
  | '0' :: _ => if cs = ['0'] then some 0 else Text.integerIn? 8 cs
  | _ =>
    if ':' ∈ cs then
      (allSome ((Tag.colonParts cs).map (Text.integerIn? 10))).map (ofGroups ·.reverse)
    else Text.integerIn? 10 cs

/-- The integer that a text is written for: binary after `0b`, hexadecimal after `0x`, octal after
any other zero. -/
def integer (s : String) : Except Breakdown Int :=
  let cs := withoutUnderscores s
  match Tag.dropSign cs with
  | [] => .error .emptyNumber
  | ds =>
    match natural? ds with
    | some n => .ok (if isNegative cs then -n else n)
    | none => .error .noNumber

def sumGroups : Nat → Binary64 → List Binary64 → Except Breakdown Binary64
  | _, sum, [] => .ok sum
  | unit, sum, x :: xs =>
    match Binary64.ofNat unit with
    | .infinite _ => .error .tooLarge
    | u => sumGroups (unit * 60) (sum.add (x.mul u)) xs

def positive (cs : List Char) : Except Breakdown Binary64 :=
  if cs = ".inf".toList then .ok (.infinite false)
  else if cs = ".nan".toList then .ok .nan
  else
    let parts := if ':' ∈ cs then Tag.colonParts cs else [cs]
    match allSome (parts.map float?) with
    | none => .error .noNumber
    | some [x] => .ok x
    | some xs => sumGroups 1 .zero xs.reverse

def lowered (s : String) : List Char :=
  (Text.lowerCase (String.ofList (withoutUnderscores s))).toList

def isUsualNan (s : String) : Bool := Tag.dropSign (lowered s) == ".nan".toList

def float (s : String) : Except Breakdown Binary64 := do
  let cs := lowered s
  if cs = [] then .error .emptyNumber
  else
    let x ← positive (Tag.dropSign cs)
    pure (if isNegative cs then x.negate else x)

def sixBits? (c : Char) : Option Nat :=
  if 'A' ≤ c ∧ c ≤ 'Z' then some (c.toNat - 'A'.toNat)
  else if 'a' ≤ c ∧ c ≤ 'z' then some (c.toNat - 'a'.toNat + 26)
  else if '0' ≤ c ∧ c ≤ '9' then some (c.toNat - '0'.toNat + 52)
  else if c = '+' then some 62
  else if c = '/' then some 63
  else none

/-- Octets in groups of four characters; `count` of a group have been read, and `bits` are left of
them. Enough padding ends the octets, and other characters are skipped. -/
def octetsFrom : Nat → Nat → Nat → List Char → Option (List UInt8)
  | count, _, _, [] => if count = 0 then some [] else none
  | count, pads, bits, c :: cs =>
    if c = '=' then
      if 2 ≤ count ∧ 4 ≤ count + pads + 1 then some []
      else octetsFrom count (if 2 ≤ count then pads + 1 else pads) bits cs
    else match sixBits? c with
      | none => octetsFrom count pads bits cs
      | some n =>
        match count with
        | 0 => octetsFrom 1 0 n cs
        | 1 => (octetsFrom 2 0 (n % 16) cs).map ((bits * 4 + n / 16).toUInt8 :: ·)
        | 2 => (octetsFrom 3 0 (n % 4) cs).map ((bits * 16 + n / 4).toUInt8 :: ·)
        | _ => (octetsFrom 0 0 0 cs).map ((bits * 64 + n).toUInt8 :: ·)

def octets? (s : String) : Option (List UInt8) :=
  if s.toList.all (·.toNat < 0x80) then octetsFrom 0 0 0 s.toList else none

end Number

end Fabula.Yaml

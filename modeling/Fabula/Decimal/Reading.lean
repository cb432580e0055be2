import Fabula.Decimal.Binary64
import Fabula.Text.Numeral

set_option autoImplicit false

namespace Fabula.Decimal

open Fabula.Text

/-- The number nearest to `n · 10 ^ k`, where `n` has `count` digits, of which the first is not
zero. Numerals far outside the range are decided by the power of the first digit alone. -/
def ofScientific (negative : Bool) (n count : Nat) (k : Int) : Binary64 :=
  if n = 0 then .finite negative 0 Binary64.minExponent
  else if 400 < k + count then .infinite negative
  else if k + count < -400 then .finite negative 0 Binary64.minExponent
  else if 0 ≤ k then .ofRatio negative (n * Nat.pow 10 k.toNat) 1
  else .ofRatio negative n (Nat.pow 10 (-k).toNat)

def optionalDigits? : List Char → Option (List Nat)
  | [] => some []
  | cs => digits? 10 cs

def exponent? : List Char → Option Int
  | '-' :: cs => (digits? 10 cs).map fun ds => -(ofDigits 10 ds : Int)
  | '+' :: cs => (digits? 10 cs).map fun ds => (ofDigits 10 ds : Int)
  | cs => (digits? 10 cs).map fun ds => (ofDigits 10 ds : Int)

def lowerAscii (cs : List Char) : List Char := cs.map Char.toLower

def unsigned? (negative : Bool) (cs : List Char) : Option Binary64 :=
  if lowerAscii cs = "inf".toList ∨ lowerAscii cs = "infinity".toList then
    some (.infinite negative)
  else if lowerAscii cs = "nan".toList then some .nan
  else do
    let isMark (c : Char) : Bool := c == 'e' || c == 'E'
    let significand := cs.takeWhile (!isMark ·)
    let power ← match cs.dropWhile (!isMark ·) with
      | [] => some 0
      | _ :: e => exponent? e
    let whole ← optionalDigits? (significand.takeWhile (· != '.'))
    let fraction ← optionalDigits? ((significand.dropWhile (· != '.')).drop 1)
    let ds := whole ++ fraction
    let figures := ds.dropWhile (· == 0)
    if ds = [] then none
    else some (ofScientific negative (ofDigits 10 figures) figures.length (power - fraction.length))

def float? (cs : List Char) : Option Binary64 :=
  match trimPadding cs with
  | '-' :: cs => unsigned? true cs
  | '+' :: cs => unsigned? false cs
  | cs => unsigned? false cs

end Fabula.Decimal

/-!
Binary floating-point numbers of 64 bits, as exact values. Every operation is the exact result over
the rationals, rounded once to the nearest number, a tie to the even significand.
-/

set_option autoImplicit false

namespace Fabula.Decimal

/-- A finite number is `± significand · 2 ^ exponent`, with the significand below `2 ^ 53`. -/
inductive Binary64 where
  | nan
  | infinite (negative : Bool)
  | finite (negative : Bool) (significand : Nat) (exponent : Int)
  deriving Repr, DecidableEq

/-- The quotient rounded to the nearest natural number, a tie to the even one. -/
def roundDiv (num den : Nat) : Nat :=
  let q := num / den
  let r := num % den
  if 2 * r < den then q
  else if den < 2 * r then q + 1
  else if q % 2 = 0 then q else q + 1

namespace Binary64

def minExponent : Int := -1074
def maxExponent : Int := 971
def significandLimit : Nat := Nat.pow 2 53

def scaled (num den : Nat) (e : Int) : Nat × Nat :=
  if e < 0 then (num * Nat.pow 2 (-e).toNat, den) else (num, den * Nat.pow 2 e.toNat)

def exponentFor (num den : Nat) : Int :=
  let guess : Int := (num.log2 : Int) - (den.log2 : Int) - 52
  let (n, d) := scaled num den guess
  let e :=
    if n / d < Nat.pow 2 52 then guess - 1
    else if Nat.pow 2 53 ≤ n / d then guess + 1
    else guess
  if e < minExponent then minExponent else e

def ofRatio (negative : Bool) (num den : Nat) : Binary64 :=
  if num = 0 then .finite negative 0 minExponent
  else
    let e := exponentFor num den
    let (n, d) := scaled num den e
    let m := roundDiv n d
    let (m, e) := if m = significandLimit then (Nat.pow 2 52, e + 1) else (m, e)
    if maxExponent < e then .infinite negative else .finite negative m e

def ofNat (n : Nat) : Binary64 := ofRatio false n 1

def zero : Binary64 := .finite false 0 minExponent

def isNegative : Binary64 → Bool
  | .nan => false
  | .infinite s => s
  | .finite s _ _ => s

def negate : Binary64 → Binary64
  | .nan => .nan
  | .infinite s => .infinite !s
  | .finite s m e => .finite (!s) m e

def ratio (negative : Bool) (m : Nat) (e : Int) : Int × Nat :=
  let n : Int := if 0 ≤ e then (m * Nat.pow 2 e.toNat : Nat) else m
  (if negative then -n else n, if 0 ≤ e then 1 else Nat.pow 2 (-e).toNat)

/-- A sum of two numbers that are not both zero has the sign of the exact sum. -/
def add : Binary64 → Binary64 → Binary64
  | .nan, _ | _, .nan => .nan
  | .infinite s, .infinite t => if s = t then .infinite s else .nan
  | .infinite s, .finite .. => .infinite s
  | .finite .., .infinite t => .infinite t
  | .finite s m e, .finite t n f =>
    let (a, b) := ratio s m e
    let (c, d) := ratio t n f
    let sum := a * d + c * b
    ofRatio (if sum = 0 then s && t else decide (sum < 0)) sum.natAbs (b * d)

def mul : Binary64 → Binary64 → Binary64
  | .nan, _ | _, .nan => .nan
  | .infinite s, .infinite t => .infinite (s != t)
  | .infinite s, .finite t n _ | .finite t n _, .infinite s =>
    if n = 0 then .nan else .infinite (s != t)
  | .finite s m e, .finite t n f =>
    let (a, b) := ratio s m e
    let (c, d) := ratio t n f
    ofRatio (s != t) (a * c).natAbs (b * d)

/-- Equality of numbers: the two zeros are equal, and what is no number differs from everything. -/
def same : Binary64 → Binary64 → Bool
  | .infinite s, .infinite t => s == t
  | .finite s m e, .finite t n f => ratio s m e == ratio t n f || (m == 0 && n == 0)
  | _, _ => false

def integer? : Binary64 → Option Int
  | .finite s m e =>
    let (a, b) := ratio s m e
    if a % b = 0 then some (a / b) else none
  | _ => none

end Binary64

end Fabula.Decimal

import Fabula.Decimal.Binary64

/-!
The shortest decimal that reads back as a given floating-point number. The reals that round to
`m · 2 ^ e` form an interval around it; on the decimal grids of 1, 2, … 17 digits the two points
next to the number are tried, and the first grid with a point inside the interval gives the digits.
-/

set_option autoImplicit false

namespace Fabula.Decimal

/-- The interval of reals that round to a positive number, its ends over a common denominator. -/
structure Rounding where
  low : Nat
  value : Nat
  high : Nat
  unit : Nat
  closed : Bool

namespace Rounding

/-- Below a power of two the neighbour is only half as far away. -/
def around (m : Nat) (e : Int) : Rounding :=
  let down := if m = Nat.pow 2 52 ∧ Binary64.minExponent < e then 1 else 2
  let scale := if 0 ≤ e then Nat.pow 2 e.toNat else 1
  let unit := if 0 ≤ e then 4 else 4 * Nat.pow 2 (-e).toNat
  ⟨(4 * m - down) * scale, 4 * m * scale, (4 * m + 2) * scale, unit, m % 2 = 0⟩

def contains (r : Rounding) (n d : Nat) : Bool :=
  let x := n * r.unit
  if r.closed then r.low * d ≤ x && x ≤ r.high * d else r.low * d < x && x < r.high * d

end Rounding

structure Digits where
  digits : List Nat
  power : Int
  deriving Repr, DecidableEq

def tenTo (k : Int) : Nat × Nat :=
  if 0 ≤ k then (Nat.pow 10 k.toNat, 1) else (1, Nat.pow 10 (-k).toNat)

/-- The largest `k ≥ low` with `10 ^ k ≤ num / den`, sought downwards from `low + fuel`. -/
def floorLog (num den : Nat) (low : Int) : Nat → Int
  | 0 => low
  | fuel + 1 =>
    let k := low + (fuel + 1 : Nat)
    let (n, d) := tenTo k
    if n * den ≤ num * d then k else floorLog num den low fuel

/-- The power of ten of the first digit of `num / den`. The number of binary digits fixes it up to
two places. -/
def leadingPower (num den : Nat) : Int :=
  let bits : Int := (num.log2 : Int) - (den.log2 : Int) - 1
  floorLog num den (bits * 30103 / 100000 - 1) 4

/-- The point next to the number on the grid of `10 ^ k` that reads back, if there is one; of two
the nearer, of two equally near the even one. -/
def Rounding.hit? (r : Rounding) (k : Int) : Option Nat :=
  let (n, d) := tenTo k
  let below := r.value * d / (r.unit * n)
  let above := below + 1
  match r.contains (below * n) d && below != 0, r.contains (above * n) d with
  | false, false => none
  | true, false => some below
  | false, true => some above
  | true, true =>
    let toBelow := r.value * d - below * n * r.unit
    let toAbove := above * n * r.unit - r.value * d
    if toBelow < toAbove then some below
    else if toAbove < toBelow then some above
    else some (if below % 2 = 0 then below else above)

def Rounding.firstHit (r : Rounding) (power : Int) (count : Nat) : Nat → Nat × Int
  | 0 => (r.value / r.unit, 0)
  | fuel + 1 =>
    let k := power - (count : Int) + 1
    match r.hit? k with
    | some n => (n, k)
    | none => r.firstHit power (count + 1) fuel

def decimalDigits (n : Nat) : List Nat := (Nat.toDigits 10 n).map fun c => c.toNat - '0'.toNat

def shortest (m : Nat) (e : Int) : Digits :=
  let r := Rounding.around m e
  let (n, k) := r.firstHit (leadingPower r.value r.unit) 1 17
  let ds := decimalDigits n
  ⟨(ds.reverse.dropWhile (· = 0)).reverse, k + ds.length - 1⟩

/-- How a number is laid out: the powers of ten that are written positionally, and the least number
of digits of an exponent. -/
structure Layout where
  leastPositional : Int
  greatestPositional : Int
  exponentDigits : Nat
  infinity : String
  nan : String

def digitChars (ds : List Nat) : List Char := ds.map fun d => Char.ofNat (d + '0'.toNat)

def positional (d : Digits) : List Char :=
  if d.power < 0 then
    '0' :: '.' :: List.replicate (-d.power - 1).toNat '0' ++ digitChars d.digits
  else
    let whole := d.digits.take (d.power.toNat + 1)
    let fraction := d.digits.drop (d.power.toNat + 1)
    digitChars whole ++ List.replicate (d.power.toNat + 1 - whole.length) '0' ++ '.' ::
      (if fraction = [] then ['0'] else digitChars fraction)

def scientific (exponentDigits : Nat) (d : Digits) : List Char :=
  let ds := digitChars d.digits
  let power := Nat.toDigits 10 d.power.natAbs
  ds.take 1 ++ (if ds.drop 1 = [] then [] else '.' :: ds.drop 1) ++
    ['e', if d.power < 0 then '-' else '+'] ++
    List.replicate (exponentDigits - power.length) '0' ++ power

def Layout.write (layout : Layout) : Binary64 → String
  | .nan => layout.nan
  | .infinite s => (if s then "-" else "") ++ layout.infinity
  | .finite s m e =>
    let d := if m = 0 then ⟨[0], 0⟩ else shortest m e
    let body :=
      if layout.leastPositional ≤ d.power ∧ d.power ≤ layout.greatestPositional then positional d
      else scientific layout.exponentDigits d
    (if s then "-" else "") ++ String.ofList body

end Fabula.Decimal

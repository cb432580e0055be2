set_option autoImplicit false

namespace Fabula.Text

def inRanges (ranges : List (Nat × Nat)) (c : Char) : Bool :=
  ranges.any fun r => decide (r.1 ≤ c.toNat) && decide (c.toNat ≤ r.2)

structure Shift where
  first : Nat
  last : Nat
  step : Nat
  distance : Int
  deriving Repr, DecidableEq

namespace Shift

def covers (s : Shift) (c : Char) : Bool :=
  decide (s.first ≤ c.toNat) && decide (c.toNat ≤ s.last) &&
    decide ((c.toNat - s.first) % s.step = 0)

def apply (s : Shift) (c : Char) : Char :=
  Char.ofNat (c.toNat + s.distance).toNat

end Shift

def shifted (shifts : List Shift) (c : Char) : Char :=
  match shifts.find? (·.covers c) with
  | some s => s.apply c
  | none => c

end Fabula.Text

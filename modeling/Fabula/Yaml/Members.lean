import Fabula.Text.SipHash
import Fabula.Yaml.Value

/-!
The order of the members of a set. Each member has a place of its own in a table, found from a
number that equal members share; a set shows its members in the order of their places. Null, and
what is no number among the numbers, have no place that is known; sets with one of them keep the
order in which they were written.
-/

set_option autoImplicit false

namespace Fabula.Yaml.Members

def modulus : Nat := Nat.pow 2 61 - 1

/-- The place number of `± n / 2 ^ k`; halving is multiplication with a power of two, since two to
the power of 61 is one. -/
def ratioNumber (negative : Bool) (n k : Nat) : Int :=
  let m := n % modulus * Nat.pow 2 ((61 - k % 61) % 61) % modulus
  let signed : Int := if negative then -m else m
  if signed = -1 then -2 else signed

def wordNumber (w : UInt64) : Int :=
  let signed := w.toInt64.toInt
  if signed = -1 then -2 else signed

def octetsNumber (os : List UInt8) : Int :=
  if os.isEmpty then 0 else wordNumber (Text.SipHash.ofOctets os)

def littleOctets : Nat → Nat → List UInt8
  | 0, _ => []
  | count + 1, n => n.toUInt8 :: littleOctets count (n / 256)

/-- As many octets for each character as the largest needs: one, two or four. -/
def textNumber (w : Text.Wide) : Int :=
  let points := w.map fun
    | .char c => c.toNat
    | .half n => n
  let greatest := points.foldl max 0
  let width := if greatest < 0x100 then 1 else if greatest < 0x10000 then 2 else 4
  octetsNumber (points.flatMap (littleOctets width))

def bigOctets (count n : Nat) : List UInt8 := (littleOctets count n).reverse

def dayOctets (d : Day) : List UInt8 := bigOctets 2 d.year ++ [d.month.toUInt8, d.day.toUInt8]

def mixedNumber (ns : List Nat) : Int :=
  let first : UInt64 := 11400714785074694791
  let second : UInt64 := 14029467366897019727
  let fifth : UInt64 := 2870177450012600261
  let mix (sum : UInt64) (n : Nat) : UInt64 :=
    Text.SipHash.rotated (sum + n.toUInt64 * second) 31 * first
  wordNumber (ns.foldl mix fifth + (ns.length.toUInt64 ^^^ fifth ^^^ 3527539))

/-- A moment with a clock of its own has the number of the days, seconds and millionths that have
passed by the universal one. -/
def timeNumber : Time → Int
  | .date d => octetsNumber (dayOctets d)
  | .moment m =>
    match m.ahead with
    | none =>
      octetsNumber (dayOctets m.day ++
        [m.hour.toUInt8, m.minute.toUInt8, m.second.toUInt8] ++ bigOctets 3 m.fraction)
    | some ahead =>
      let seconds := ((m.seconds : Int) - ahead * 60).toNat
      let day := 24 * 3600
      mixedNumber [seconds / day, seconds % day, m.fraction]

def number? : Value → Option Int
  | .text w => some (textNumber w)
  | .octets os => some (octetsNumber os)
  | .time t => some (timeNumber t)
  | .truth b => some (if b then 1 else 0)
  | .integer n => some (ratioNumber (n < 0) n.natAbs 0)
  | .float (.finite negative m e) =>
    some (if 0 ≤ e then ratioNumber negative (m * Nat.pow 2 e.toNat) 0
      else ratioNumber negative m (-e).toNat)
  | .float (.infinite negative) => some (if negative then -314159 else 314159)
  | _ => none

def inRow : Nat := 9

def freeAmong (table : Array (Option Value)) (i : Nat) : Nat → Option Nat
  | 0 => none
  | count + 1 =>
    match table[i]? with
    | some none => some i
    | _ => freeAmong table (i + 1) count

/-- The first free place for a number: places in a row from one on, and then from another that also
depends on what is left of the number. -/
def freePlace (table : Array (Option Value)) : Nat → Nat → Nat → Nat
  | 0, i, _ => i
  | fuel + 1, i, left =>
    match freeAmong table i (if i + inRow < table.size then inRow + 1 else 1) with
    | some place => place
    | none =>
      let left := left / 32
      freePlace table fuel ((i * 5 + 1 + left) % table.size) left

def put (table : Array (Option Value)) (number : Int) (v : Value) : Array (Option Value) :=
  let left := (number % (Nat.pow 2 64 : Nat)).toNat
  table.setIfInBounds (freePlace table (table.size + 64) (left % table.size) left) (some v)

def sizeOver (n : Nat) : Nat := if n < 8 then 8 else Nat.pow 2 (n.log2 + 1)

def places (count : Nat) : Nat := if count * 5 < 21 then 8 else sizeOver (count * 2)

def ordered (vs : List Value) : List Value :=
  match vs.mapM fun v => (number? v).map (·, v) with
  | none => vs
  | some numbered =>
    let empty : Array (Option Value) := .replicate (places vs.length) none
    (numbered.foldl (fun table (n, v) => put table n v) empty).toList.filterMap id

theorem put_subset {table : Array (Option Value)} {number : Int} {u v : Value}
    (h : some v ∈ put table number u) : some v ∈ table ∨ v = u := by
  rcases Array.mem_or_eq_of_mem_setIfInBounds h with hold | hnew
  · exact .inl hold
  · exact .inr (Option.some.inj hnew)

theorem numbered_subset {vs : List Value} {numbered : List (Int × Value)}
    (h : (vs.mapM fun v => (number? v).map (·, v)) = some numbered) :
    ∀ row ∈ numbered, row.2 ∈ vs := by
  induction vs generalizing numbered with
  | nil =>
    obtain rfl := Option.some.inj h
    simp
  | cons v vs ih =>
    rw [List.mapM_cons, Option.bind_eq_bind, Option.bind_eq_some_iff] at h
    obtain ⟨row, hrow, hrest⟩ := h
    obtain ⟨rows, hrows, hnumbered⟩ := Option.bind_eq_some_iff.mp hrest
    obtain ⟨n, -, rfl⟩ := Option.map_eq_some_iff.mp hrow
    obtain rfl := Option.some.inj hnumbered
    exact List.forall_mem_cons.mpr ⟨by simp, fun row hmem => by simp [ih hrows row hmem]⟩

theorem foldl_put_subset {vs : List Value} {rows : List (Int × Value)}
    {table : Array (Option Value)} (hrows : ∀ row ∈ rows, row.2 ∈ vs)
    (htable : ∀ u, some u ∈ table → u ∈ vs) :
    ∀ u, some u ∈ rows.foldl (fun table row => put table row.1 row.2) table → u ∈ vs := by
  induction rows generalizing table with
  | nil => exact htable
  | cons row rows ih =>
    rw [List.forall_mem_cons] at hrows
    refine ih hrows.2 fun u hu => ?_
    rcases put_subset hu with hold | rfl
    · exact htable u hold
    · exact hrows.1

theorem ordered_subset {vs : List Value} {v : Value} (h : v ∈ ordered vs) : v ∈ vs := by
  rw [ordered] at h
  split at h
  · exact h
  · next numbered hnumbered =>
    obtain ⟨entry, hentry, rfl⟩ := List.mem_filterMap.mp h
    refine foldl_put_subset (numbered_subset hnumbered) ?_ v (Array.mem_toList_iff.mp hentry)
    intro u hu
    simp at hu

end Fabula.Yaml.Members

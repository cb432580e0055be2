import Fabula.Decimal.Shortest
import Fabula.Text.Wide
import Fabula.Yaml.Fault
import Fabula.Yaml.Moment

/-!
What documents stand for: scalars of several kinds, and lists, mappings, sets and pairs of values.
The latter are numbered, since they may come again in a document, even inside of themselves.
Mappings keep the order in which their keys were first written.
-/

set_option autoImplicit false

namespace Fabula.Yaml

open Fabula.Decimal
open Fabula.Text (Wide)

inductive Value where
  | null
  | truth (b : Bool)
  | integer (n : Int)
  | float (x : Binary64)
  /-- No number. The usual one is always the same; others are what single parts stand for. -/
  | noNumber (part : Option Nat)
  | text (s : Wide)
  | octets (os : List UInt8)
  | time (t : Time)
  | compound (number : Nat)
  deriving Repr

inductive Compound where
  | list (items : List Value)
  | mapping (entries : List (Value × Value))
  | set (members : List Value)
  | pair (first second : Value)
  deriving Repr

abbrev Compounds := Array Compound

/-- Floating-point numbers are written with the fewest digits that tell them apart, positionally
from `0.0001` up to sixteen digits before the point. -/
def floatLayout : Layout := ⟨-4, 15, 2, "inf", "nan"⟩

namespace Value

def canBeKey : Value → Bool
  | compound _ => false
  | _ => true

def whole? : Value → Option Int
  | truth b => some (if b then 1 else 0)
  | integer n => some n
  | float x => x.integer?
  | _ => none

/-- Whether two keys are one. Numbers are compared by what they amount to, whatever their kind. -/
def sameKey : Value → Value → Bool
  | null, null => true
  | text s, text t => s == t
  | octets os, octets ps => os == ps
  | time (.date d), time (.date e) => d == e
  | time (.moment m), time (.moment n) => m.same n
  | noNumber p, noNumber q => p == q
  | float x, float y => x.same y
  | v, w => v.whole?.isSome && v.whole? == w.whole?

def putEntry (k v : Value) : List (Value × Value) → List (Value × Value)
  | [] => [(k, v)]
  | (k', v') :: es => if sameKey k' k then (k', v) :: es else (k', v') :: putEntry k v es

/-- Entries of which the last one for a key counts, at the place of the first. -/
def distinct (es : List (Value × Value)) : List (Value × Value) :=
  es.foldl (fun done e => putEntry e.1 e.2 done) []

def shownAlone : Value → Except Breakdown String
  | null => .ok "None"
  | truth b => .ok (if b then "True" else "False")
  | integer n => if n.natAbs < Text.tooLong then .ok (Text.decimal n) else .error .tooLong
  | float x => .ok (floatLayout.write x)
  | noNumber _ => .ok floatLayout.nan
  | text s => .ok s.quoted
  | octets os => .ok (Text.quotedOctets os)
  | time t => .ok t.shown
  | compound _ => .error .endless

def shownAgain : Compound → String
  | .list _ => "[...]"
  | .mapping _ => "\x7b...\x7d"
  | .set _ => "set(...)"
  | .pair .. => "(...)"

def shownWithin (cs : Compounds) : Nat → List Nat → Value → Except Breakdown String
  | depth + 1, begun, compound n =>
    match cs[n]?, begun.contains n with
    | none, _ => .error .endless
    | some c, true => .ok (shownAgain c)
    | some c, false => do
      let show' := shownWithin cs depth (n :: begun)
      match c with
      | .list items => pure (Text.bracketed "[" "]" (← items.mapM show'))
      | .mapping es =>
        pure (Text.bracketed "\x7b" "\x7d"
          (← es.mapM fun e => do pure ((← show' e.1) ++ ": " ++ (← show' e.2))))
      | .set [] => pure "set()"
      | .set members => pure (Text.bracketed "\x7b" "\x7d" (← members.mapM show'))
      | .pair a b => pure (Text.bracketed "(" ")" [← show' a, ← show' b])
  | _, _, v => v.shownAlone

def shown (cs : Compounds) (deepest : Nat) (v : Value) : Except Breakdown String :=
  shownWithin cs deepest [] v

/-- A value as a text: texts and times stand for themselves. -/
def plain (cs : Compounds) (deepest : Nat) : Value → Except Breakdown Wide
  | text s => .ok s
  | time t => .ok (.ofString t.plain)
  | v => (shown cs deepest v).map .ofString

def scalarText (cs : Compounds) (deepest : Nat) : Value → Except Breakdown Wide
  | null => .ok []
  | truth b => .ok (.ofString (if b then "true" else "false"))
  | v => plain cs deepest v

def compound? (cs : Compounds) : Value → Option Compound
  | compound n => cs[n]?
  | _ => none

end Value

end Fabula.Yaml

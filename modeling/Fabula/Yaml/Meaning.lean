import Fabula.Yaml.Graph.Merging
import Fabula.Yaml.Graph.Reading
import Fabula.Yaml.Members
import Fabula.Yaml.Number

/-!
The meaning of a document as a value. Parts are given values round by round: a round fills the
compounds that were begun in the round before, in order, and begins those that it meets. A part has
one value, however often it is named. Merging is done in a mapping when it is filled.
-/

set_option autoImplicit false

namespace Fabula.Yaml

namespace Value

def truth? (s : String) : Option Bool :=
  if s ∈ ["yes", "true", "on"] then some true
  else if s ∈ ["no", "false", "off"] then some false
  else none

def ofTruth (s : String) : Except Breakdown Value :=
  let word := Text.lowerCase s
  match truth? word with
  | some b => .ok (.truth b)
  | none => .error (.noTruth word)

def ofTime (s : String) : Except Breakdown Value :=
  match Time.ofText? (Tag.dropLineEnd s.toList) with
  | some t => if t.isValid then .ok (.time t) else .error .outsideCalendar
  | none => .error .noMoment

/-- A floating-point number; what is no number is that of a part, but for the usual one. -/
def ofFloat (part : Nat) (s : String) : Except Breakdown Value := do
  match ← Number.float s with
  | .nan => pure (.noNumber (if Number.isUsualNan s then none else some part))
  | x => pure (.float x)

def broken (e : Except Breakdown Value) : Except Fault Value := e.mapError .breakdown

def ofScalar (part : Nat) (tag : Tag) (w : Text.Wide) : Except Fault Value :=
  let s := w.string
  match tag with
  | .null => .ok .null
  | .truth => broken (ofTruth s)
  | .integer => broken ((Number.integer s).map .integer)
  | .float => broken (ofFloat part s)
  | .moment => broken (ofTime s)
  | .text => .ok (.text w)
  | .octets =>
    match Number.octets? s with
    | some os => .ok (.octets os)
    | none => .error (.malformed "malformed octets")
  | _ => .error (.malformed "unknown tag")

end Value

/-- What each reader of documents does in its own way: how many parts it follows into each other,
and in which order it takes the members of a set. -/
structure Habits where
  deepest : Nat
  ordered : List Value → List Value
  subset : ∀ vs, ordered vs ⊆ vs

def Habits.usual : Habits := ⟨486, Members.ordered, fun _ _ => Members.ordered_subset⟩

structure Making where
  graph : Graph
  values : Array (Option Value)
  compounds : Compounds
  /-- The parts of which the compounds have been begun and not filled, back to front, and the
  numbers of these. -/
  begun : List (Nat × Nat)

namespace Making

def start (g : Graph) : Making := ⟨g, .replicate g.size none, #[], []⟩

def emptyCompound? : Tag → Option Compound
  | .sequence | .pairs | .orderedMapping => some (.list [])
  | .mapping => some (.mapping [])
  | .set => some (.set [])
  | _ => none

def addCompound (m : Making) (c : Compound) : Nat × Making :=
  (m.compounds.size, { m with compounds := m.compounds.push c })

def setCompound (m : Making) (number : Nat) (c : Compound) : Making :=
  { m with compounds := m.compounds.setIfInBounds number c }

/-- The value of a part that is made of no others. A moment is written as it is, and a mapping does
not stand for one. -/
def scalarValue (m : Making) (n : Nat) : Except Fault Value := do
  let tag := m.graph.tag n
  if tag = .byDefault ∨ tag = .merge ∨ tag = .unknown then .error (.malformed "unknown tag")
  else
    let text ← m.graph.text n
    if tag = .moment ∧ m.graph.isMapping n then .error (.breakdown .noMomentText)
    else Value.ofScalar n tag text

def value (n : Nat) (m : Making) : Except Fault (Value × Making) :=
  match (m.values[n]?).join, emptyCompound? (m.graph.tag n) with
  | some v, _ => .ok (v, m)
  | none, some c =>
    let (number, m) := m.addCompound c
    let v := Value.compound number
    .ok (v, { m with
      values := m.values.setIfInBounds n (some v), begun := (n, number) :: m.begun })
  | none, none => do
    let v ← m.scalarValue n
    pure (v, { m with values := m.values.setIfInBounds n (some v) })

def items : List Nat → Making → Except Fault (List Value × Making)
  | [], m => .ok ([], m)
  | n :: ns, m => do
    let (v, m) ← m.value n
    let (vs, m) ← items ns m
    pure (v :: vs, m)

def pairs : List Nat → Making → Except Fault (List Value × Making)
  | [], m => .ok ([], m)
  | n :: ns, m =>
    match m.graph.content n with
    | .mapping [(k, v)] => do
      let (a, m) ← m.value k
      let (b, m) ← m.value v
      let (number, m) := m.addCompound (.pair a b)
      let (vs, m) ← pairs ns m
      pure (.compound number :: vs, m)
    | _ => .error (.malformed "single entry expected")

def entries : List (Nat × Nat) → Making → Except Fault (List (Value × Value) × Making)
  | [], m => .ok ([], m)
  | (k, v) :: es, m => do
    let (key, m) ← m.value k
    if !key.canBeKey then .error (.malformed "unusable key")
    else
      let (value, m) ← m.value v
      let (rest, m) ← entries es m
      pure ((key, value) :: rest, m)

def mergedEntries (n : Nat) (m : Making) : Except Fault (List (Value × Value) × Making) := do
  let m := { m with graph := ← m.graph.merge n }
  let (es, m) ← m.entries (m.graph.entries n)
  pure (Value.distinct es, m)

def fill (h : Habits) (m : Making) (part : Nat × Nat) : Except Fault Making := do
  let (n, number) := part
  match m.graph.tag n, m.graph.content n with
  | .sequence, .sequence ns => do
    let (vs, m) ← m.items ns
    pure (m.setCompound number (.list vs))
  | .pairs, .sequence ns | .orderedMapping, .sequence ns => do
    let (vs, m) ← m.pairs ns
    pure (m.setCompound number (.list vs))
  | .mapping, .mapping _ => do
    let (es, m) ← m.mergedEntries n
    pure (m.setCompound number (.mapping es))
  | .set, .mapping _ => do
    let (es, m) ← m.mergedEntries n
    pure (m.setCompound number (.set (h.ordered (es.map (·.1)))))
  | _, _ => .error (.malformed "tag of something else")

/-- Rounds until there is nothing left to fill. A part begins one compound at most, so there are not
more rounds than parts. -/
def rounds (h : Habits) : Nat → Making → Except Fault Making
  | 0, m => .ok m
  | count + 1, m =>
    if m.begun.isEmpty then .ok m
    else do rounds h count (← m.begun.reverse.foldlM (fill h) { m with begun := [] })

end Making

structure Document where
  value : Value
  compounds : Compounds

namespace Document

def forbidden : Fault := .malformed "character that no document may hold"

/-- The document of a text, behind which a fault may follow. Without a document it is null. -/
def ofPart (h : Habits) (text : List Char) (behind : Option Fault) : Except Fault Document := do
  if !text.all isAllowed then .error forbidden
  else
    match ← Graph.ofText h.deepest text behind with
    | none => pure ⟨.null, #[]⟩
    | some (root, g) => do
      let (v, m) ← (Making.start g).value root
      pure ⟨v, (← m.rounds h (g.size + 1)).compounds⟩

end Document

end Fabula.Yaml

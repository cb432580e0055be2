import Fabula.Node
import Fabula.Yaml.Value

set_option autoImplicit false

namespace Fabula.Yaml

open Fabula.Text (Wide)

namespace Value

def parts? (cs : Compounds) : Value → Option (List Value)
  | null => some []
  | truth b => if b then none else some []
  | integer n => if n = 0 then some [] else none
  | float x => if x.integer? = some 0 then some [] else none
  | text s => some (s.map fun p => .text [p])
  | octets os => some (os.map fun o => .integer o.toNat)
  | noNumber _ | time _ => none
  | compound n =>
    match cs[n]? with
    | some (.list items) => some items
    | some (.mapping es) => some (es.map (·.1))
    | some (.set members) => some members
    | some (.pair a b) => some [a, b]
    | none => none

def isText (name : String) : Value → Bool
  | .text s => s == .ofString name
  | _ => false

end Value

/-- A node as it is read: halves of characters may stand in its texts. -/
structure Tree where
  name : Wide
  attributes : Table Wide Wide
  value : Wide
  children : List Tree
  deriving Repr, Inhabited

namespace Tree

def node : Tree → Node
  | ⟨name, attributes, value, children⟩ =>
    ⟨name.string, Wide.strings attributes, value.string, nodes children⟩
where
  nodes : List Tree → List Node
    | [] => []
    | t :: ts => node t :: nodes ts

def unlessBroken {α : Type} (e : Except Breakdown α) : Except Refusal α := e.mapError .breakdown

def childValues (cs : Compounds) (v : Value) : Except Refusal (List Value) :=
  match v.parts? cs with
  | some vs => .ok vs
  | none => .error (.breakdown .noParts)

/-- Reads the entries of a node one by one: children, its text, and attributes. Keys become names by
their texts; of two keys with one text the last value counts. -/
def withEntries (cs : Compounds) (deepestShown : Nat) (child : Value → Except Refusal Tree) :
    List (Value × Value) → Tree → Except Refusal Tree
  | [], t => .ok t
  | (key, v) :: es, t => do
    if key.isText "children" then
      withEntries cs deepestShown child es
        { t with children := ← (← childValues cs v).mapM child }
    else
      let text ← unlessBroken (v.scalarText cs deepestShown)
      if key.isText "value" then withEntries cs deepestShown child es { t with value := text }
      else
        let name ← unlessBroken (key.plain cs deepestShown)
        withEntries cs deepestShown child es { t with attributes := t.attributes.put name text }

def ofValueWithin (cs : Compounds) (deepestShown : Nat) : Nat → Value → Except Refusal Tree
  | 0, _ => .error (.breakdown .endless)
  | depth + 1, v =>
    match v.compound? cs with
    | some (.mapping [(key, body)]) =>
      let name := unlessBroken (key.plain cs deepestShown)
      match body.compound? cs with
      | some (.mapping es) => do
        let t ← withEntries cs deepestShown (ofValueWithin cs deepestShown depth) es
          ⟨[], [], [], []⟩
        pure { t with name := ← name }
      | some (.list items) => do
        pure ⟨← name, [], [], ← items.mapM (ofValueWithin cs deepestShown depth)⟩
      | _ => do
        pure ⟨← name, [], ← unlessBroken (body.scalarText cs deepestShown), []⟩
    | _ => do .error (.flaw (.notNode (← unlessBroken (v.shown cs deepestShown))))

end Tree

end Fabula.Yaml

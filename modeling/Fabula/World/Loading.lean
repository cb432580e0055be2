import Fabula.Text.Quoted
import Fabula.World.Complaint

/-!
The world that a document describes. Areas are entered into the table before any of them is filled,
so that exits can name areas that come later.
-/

set_option autoImplicit false

namespace Fabula

namespace Node

/-- How many pieces a mention of an item stands for: `ammount`, or else `amount`, or else one. -/
def pieces (n : Node) : Except Flaw Int := do
  n.integer "ammount" (← n.integer "amount" 1)

def holdings (h : Holdings) : List Node → Except Flaw Holdings
  | [] => pure h
  | n :: nodes =>
    if n.name = "contains" then do holdings (h.add (n.attr "item") (← n.pieces)) nodes
    else holdings h nodes

def passage : String := "passage"

def exit (n : Node) : Exit :=
  let kind := n.attr "type"
  ⟨n.attr "to", n.attr "dir", kind, kind == passage, n.filled? "key"⟩

def fixture (n : Node) : Except Flaw Fixture := do
  pure ⟨n.attr "name", n.attr "desc", ← holdings [] n.children⟩

def item (n : Node) : Item := ⟨n.attr "id", n.attr "name", n.attr "desc"⟩

def bareArea (n : Node) : Area := ⟨n.attr "id", "???", "", [], [], []⟩

/-- The loose items are read before the exits and fixtures. -/
def area (n : Node) : Except Flaw Area := do
  let items ← holdings [] n.children
  let fixtures ← (n.children.filter (·.name == "prop")).mapM fixture
  pure {
    id := n.attr "id"
    name := (n.filled? "name").getD "???"
    description := n.attr "desc"
    exits := (n.children.filter (·.name == "connects")).map exit
    items
    fixtures }

end Node

namespace World

def fillAreas (areas : Table String Area) : List Node → Except Flaw (Table String Area)
  | [] => pure areas
  | n :: nodes => do
    let a ← n.area
    fillAreas (areas.put a.id a) nodes

def load (root : Node) : Except Flaw World := do
  let areaNodes := root.children.filter (·.tagged "area")
  let bare := Table.ofRows (areaNodes.map fun n => (n.attr "id", n.bareArea))
  pure {
    items := Table.ofRows ((root.children.filter (·.tagged "item")).map fun n =>
      (n.attr "id", n.item))
    areas := ← fillAreas bare areaNodes
    scenes := Table.ofRows ((root.children.filter (·.tagged "entry")).map fun n =>
      (n.attr "id", Scene.ofNode n)) }

def ofDocument (document : Node) : Except LoadError World :=
  match document.worldRoot.complaints with
  | [] =>
    match load document.worldRoot with
    | .ok w => .ok w
    | .error f => .error (.flaw f)
  | found => .error (.complaints found)

def summary (w : World) : String :=
  "world_loaded areas " ++ Text.quotedList w.areas.keys ++ " items " ++
    Text.quotedList w.items.keys ++ " entries " ++ Text.quotedList w.scenes.keys

end World

end Fabula

import Fabula.Play.Line
import Fabula.World

/-!
What the nouns of a command mean: an item and the place that holds it, or a fixture. A noun is a
number in a listing or a name in any case; the first match of a listing counts.
-/

set_option autoImplicit false

namespace Fabula

inductive Place where
  | bag
  | ground
  | fixture (position : Nat)
  deriving Repr, DecidableEq

structure Surroundings where
  items : Table String Item
  bag : Holdings
  area : Option Area

inductive Target where
  | item (item : Item) (place : Place)
  | fixture (position : Nat) (fixture : Fixture)

namespace Surroundings

def holdings (s : Surroundings) : Place → Holdings
  | .bag => s.bag
  | .ground => (s.area.map (·.items)).getD []
  | .fixture i => ((s.area.bind (·.fixtures[i]?)).map (·.items)).getD []

/-- The first item of a listing, counted from `n`, that a word means. Unknown items are counted and
never meant. -/
def itemMeant? (s : Surroundings) (word : String) : Nat → Holdings → Option Item
  | _, [] => none
  | n, (id, _) :: rest =>
    match s.items.get? id with
    | some item => if means word n item.name then some item else s.itemMeant? word (n + 1) rest
    | none => s.itemMeant? word (n + 1) rest

def itemIn? (s : Surroundings) (place : Place) (word : String) : Option Item :=
  s.itemMeant? word 1 (s.holdings place)

/-- The place that a word means as the source of an item: the bag, or else a fixture. -/
def source? (s : Surroundings) (word : String) : Option Place :=
  if Text.caseFold word = "bag" then some .bag
  else (s.area.bind (·.fixture? word)).map .fixture

def fixtureTarget? (s : Surroundings) (word : String) : Option Target := do
  let area ← s.area
  let i ← area.fixture? word
  let f ← area.fixtures[i]?
  pure (.fixture i f)

/-- What a clause `X` or `X from Y` means. Loose items come before fixtures. -/
def target? (s : Surroundings) (args : List String) : Option Target :=
  match splitFrom args with
  | ("", _) => none
  | (_, some "") => none
  | (word, some source) => do
    let place ← s.source? source
    let item ← s.itemIn? place word
    pure (.item item place)
  | (word, none) =>
    match s.itemIn? .ground word with
    | some item => some (.item item .ground)
    | none => s.fixtureTarget? word

end Surroundings

end Fabula

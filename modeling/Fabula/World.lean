import Fabula.Boxes
import Fabula.Scene
import Fabula.Text.CaseFold

set_option autoImplicit false

namespace Fabula

structure Item where
  id : String
  name : String
  description : String
  deriving Repr, DecidableEq

structure Fixture where
  name : String
  description : String
  items : Holdings
  deriving Repr, DecidableEq

structure Exit where
  target : String
  direction : String
  kind : String
  isOpen : Bool
  key : Option String
  deriving Repr, DecidableEq

structure Area where
  id : String
  name : String
  description : String
  exits : List Exit
  items : Holdings
  fixtures : List Fixture
  deriving Repr, DecidableEq

structure World where
  items : Table String Item
  areas : Table String Area
  scenes : Table String Scene
  deriving Repr

/-- Whether a word of the player means the thing at a place of a listing: by its number there, or
by its name in any case. -/
def means (word : String) (index : Int) (name : String) : Bool :=
  word == Text.decimal index || Text.sameFolded word name

def placeMeant? (word : String) : Nat → List String → Option Nat
  | _, [] => none
  | n, name :: names => if means word n name then some n else placeMeant? word (n + 1) names

namespace Area

def fixture? (a : Area) (word : String) : Option Nat :=
  (placeMeant? word 1 (a.fixtures.map (·.name))).map (· - 1)

def exitTo? (a : Area) (direction : String) : Option Nat :=
  a.exits.findIdx? fun e => Text.sameFolded e.direction direction

def exit? (a : Area) (direction : String) : Option Exit :=
  a.exits.find? fun e => Text.sameFolded e.direction direction

end Area

namespace World

def area? (w : World) (id : String) : Option Area := w.areas.get? id

def item? (w : World) (id : String) : Option Item := w.items.get? id

def scene? (w : World) (id : String) : Option Scene := w.scenes.get? id

def itemName (w : World) (id : String) : String :=
  match w.item? id with
  | some item => item.name
  | none => id

def changeArea (w : World) (id : String) (f : Area → Area) : World :=
  { w with areas := w.areas.modify id f }

/-- Opens the exit at a position of an area, and every exit of the same kind that leads back from
its target. -/
def unlock (w : World) (area : String) (position : Nat) : World :=
  match (w.area? area).bind (·.exits[position]?) with
  | none => w
  | some e =>
    let w := w.changeArea area fun a =>
      { a with exits := a.exits.modify position fun e => { e with isOpen := true } }
    w.changeArea e.target fun b =>
      { b with exits := b.exits.map fun back =>
          if back.target = area ∧ back.kind = e.kind then { back with isOpen := true } else back }

end World

end Fabula

import Fabula.Play.Deed

/-!
The verbs of the player and what each of them does. A command is decided on the game as it stands
before it, and then done deed by deed.
-/

set_option autoImplicit false

namespace Fabula

inductive Verb where
  | restart
  | quit
  | items
  | drop
  | take
  | examine
  | go
  | unlock
  | look
  deriving Repr, DecidableEq

namespace Verb

def ofWord? : String → Option Verb
  | "restart" => some restart
  | "quit" => some quit
  | "items" => some items
  | "drop" => some drop
  | "take" => some take
  | "examine" => some examine
  | "go" => some go
  | "open" => some unlock
  | "look" => some look
  | _ => none

/-- Whether a verb needs an argument. Arguments that are not needed are ignored. -/
def needsArgument : Verb → Bool
  | restart | quit | items | look => false
  | drop | take | examine | go | unlock => true

end Verb

namespace Game

def itemName (g : Game) (id : String) : Filler := .text (g.world.itemName id)

def listBag (g : Game) : List Deed :=
  match g.session.bag with
  | [] => [.say "inventory_empty"]
  | bag => .say "inventory_header" :: bag.map fun (id, n) =>
      .fill "inventory_entry" [("item", g.itemName id), ("amount", .number n)]

def dropItem (g : Game) (args : List String) : List Deed :=
  match g.area?, g.surroundings.itemIn? .bag (Text.unwords args) with
  | some _, some item =>
    [.carry item.id .bag .ground, .note .bagAndGround, .fill "dropped" [("item", .text item.name)]]
  | _, _ => [.say "drop_failure"]

def takeItem (g : Game) (args : List String) : List Deed :=
  match g.surroundings.target? args with
  | some (.item item .bag) => [.fill "already_carried" [("item", .text item.name)]]
  | some (.item item place) =>
    [.carry item.id place .bag, .note .bag, .fill "taken" [("item", .text item.name)]]
  | _ => [.say "take_failure"]

def listing (g : Game) (key : String) (h : Holdings) : List Deed :=
  h.mapIdx fun i (id, n) =>
    .fill key [("article", .article n), ("item", g.itemName id), ("index", .place (i + 1))]

def examine (g : Game) (args : List String) : List Deed :=
  match g.surroundings.target? args with
  | none => [.say "examine_failure"]
  | some (.fixture _ f) =>
    (if f.description = "" then [] else [.tell f.description]) ++
    (if f.items = [] then [.fill "prop_empty" [("prop", .text f.name)]]
      else .fill "prop_contents" [("prop", .text f.name)] :: g.listing "prop_entry" f.items)
  | some (.item item _) => [.tell (if item.description = "" then item.name else item.description)]

/-- The direction that a player asks to go in; `back` is against the last move. -/
def direction? (g : Game) (requested : String) : Option String :=
  if Text.caseFold requested = "back" then g.session.heading.bind opposite? else some requested

def go (g : Game) (args : List String) : List Deed :=
  let requested := Text.unwords args
  let exit? := do
    let area ← g.area?
    let direction ← g.direction? requested
    area.exit? direction
  let move : List Deed := match exit? with
    | none => [.say "cannot_move"]
    | some e =>
      if e.isOpen then
        [.fill "moved" [("direction", .text e.direction)], .walk e.direction e.target,
          .note (.line .walked ("location " ++ e.target))]
      else [.fill "blocked" [("type", .text e.kind), ("direction", .text e.direction)]]
  move ++ if Text.caseFold requested = "back" then [.forgetHeading] else []

/-- Whether a key is needed that the player does not carry. -/
def lacksKey (g : Game) (e : Exit) : Option String :=
  e.key.filter fun key => !(g.session.bag.has key)

def unlock (g : Game) (args : List String) : List Deed :=
  let found? := do
    let area ← g.area?
    let i ← area.exitTo? (Text.unwords args)
    let e ← area.exits[i]?
    pure (area, i, e)
  match found? with
  | none => [.say "open_failure"]
  | some (area, i, e) =>
    let fields := [("type", .text e.kind), ("direction", .text e.direction)]
    if e.isOpen then [.fill "already_open" fields]
    else match g.lacksKey e with
      | some key => [.fill "needs_key" (("item", g.itemName key) :: fields)]
      | none =>
        [.unlock i,
          .note (.line .opened
            ("opened " ++ area.id ++ " [" ++ e.direction ++ "] -> " ++ e.target)),
          .fill "opened" fields]

def look (g : Game) : List Deed :=
  match g.area? with
  | none => []
  | some area =>
    .tell area.description ::
      (area.fixtures.mapIdx fun i f =>
        .fill "look_prop" [("prop", .text f.name), ("index", .place (i + 1))]) ++
      (area.exits.map fun e =>
        .fill "look_connection" [("type", .text e.kind), ("direction", .text e.direction)]) ++
      g.listing "look_item" area.items

end Game

namespace Verb

def deeds (v : Verb) (args : List String) (g : Game) : List Deed :=
  match v with
  | restart => [.say "restarted", .restart]
  | quit => [.askToQuit]
  | items => g.listBag
  | drop => g.dropItem args
  | take => g.takeItem args
  | examine => g.examine args
  | go => g.go args
  | unlock => g.unlock args
  | look => g.look

end Verb

def Line.deeds? (l : Line) (g : Game) : Option (List Deed) := do
  let v ← Verb.ofWord? l.verb
  if v.needsArgument && l.args.isEmpty then none else pure (v.deeds l.args g)

structure Answer where
  outcome : Outcome
  understood : Bool

namespace Game

def execute (g : Game) (text : String) : Answer :=
  let line := Line.ofText text
  if line.verb = "" then ⟨.done g, true⟩
  else
    let noted := g.trace .command ("command " ++ line.verb ++ " args " ++ Text.quotedList line.args)
    match line.deeds? g with
    | some deeds => ⟨noted.next (performAll deeds), true⟩
    | none => ⟨noted.next (Deed.say "not_understood").perform, false⟩

end Game

end Fabula

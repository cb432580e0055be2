import Fabula.Play.Game

/-!
Deeds: the single things that a command or a cue does, one after the other. All that a deed says is
looked up in the catalogue when it is done, and a message that is missing or cannot be filled in
breaks off the rest.
-/

set_option autoImplicit false

namespace Fabula

inductive Filler where
  | text (s : String)
  | number (n : Int)
  /-- The number of a place in a listing. -/
  | place (n : Nat)
  /-- The word for one piece, or for several. -/
  | article (amount : Int)
  deriving Repr, DecidableEq

inductive Note where
  | line (topic : Topic) (text : String)
  | bag
  | bagAndGround
  deriving Repr, DecidableEq

/-- What is in the bag is noted when something is taken, and with the ground when something is
dropped. -/
@[simp] def Note.topic : Note → Topic
  | line topic _ => topic
  | bag => .taken
  | bagAndGround => .dropped

inductive Deed where
  | tell (text : String)
  /-- Shows a message as it stands in the catalogue. -/
  | say (key : String)
  /-- Shows a message with its fields filled in. -/
  | fill (key : String) (fields : List (String × Filler))
  | offer (number : Nat) (text : String)
  | carry (item : String) (source target : Place)
  | enter (area : String)
  /-- Moves to an area and remembers the direction. -/
  | walk (direction area : String)
  | forgetHeading
  | unlock (position : Nat)
  /-- Queues the question whether to quit. -/
  | askToQuit
  | restart
  | finish
  /-- Breaks off where a cue is missing. -/
  | stumble
  | note (note : Note)
  deriving Repr, DecidableEq

def Holdings.shown (h : Holdings) : Except Fault String := do
  let rows ← h.mapM fun (id, n) =>
    if n.natAbs < Text.tooLong then .ok (Text.quoted id ++ ": " ++ Text.decimal n)
    else .error .tooLong
  pure (Text.bracketed "\x7b" "\x7d" rows)

namespace Game

def message (g : Game) (key : String) : Except Fault String :=
  match g.catalogue.get? key with
  | some text => pure text
  | none => .error (.noMessage key)

def filler (g : Game) : Filler → Except Fault Template.Value
  | .text s => pure (.text s)
  | .number n => pure (.number n)
  | .place n => pure (.place n)
  | .article n => do pure (.text (← g.message (if 1 < n then "article_some" else "article_one")))

def fields (g : Game) : List (String × Filler) → Except Fault Template.Fields
  | [] => pure []
  | (name, f) :: rest => do
    let v ← g.filler f
    pure ((name, v) :: (← g.fields rest))

def render (template : String) (fields : Template.Fields) : Except Fault String :=
  match Template.render template fields with
  | .ok text => .ok text
  | .error fault => .error (.template fault)

/-- A message with its fields filled in. The message itself is looked up first. -/
def filled (g : Game) (key : String) (fs : List (String × Filler)) : Except Fault String := do
  let template ← g.message key
  render template (← g.fields fs)

def showing (g : Game) (text : Except Fault String) : Outcome :=
  match text with
  | .ok text => g.display text
  | .error fault => .failed g fault

def quitQuestion (g : Game) : Except Fault Cue := do
  let question ← g.message "quit_prompt"
  let yes ← g.message "quit_yes"
  let no ← g.message "quit_no"
  pure (.choose question [(yes, .act .finish), (no, .pass)])

/-- The text of a note. It is made whether or not play leaves a trace. -/
def noteText (g : Game) : Note → Except Fault String
  | .line _ text => .ok text
  | .bag => do pure ("inventory " ++ (← g.session.bag.shown))
  | .bagAndGround => do
    let bag ← g.session.bag.shown
    let ground ← (g.surroundings.holdings .ground).shown
    pure ("inventory " ++ bag ++ " area " ++ g.session.area.getD "" ++ " items " ++ ground)

end Game

namespace Deed

def perform (d : Deed) (g : Game) : Outcome :=
  match d with
  | tell text => g.display text
  | say key => g.showing (g.message key)
  | fill key fields => g.showing (g.filled key fields)
  | offer number text =>
    g.showing (Game.render g.catalogue.optionTemplate
      [("index", .place number), ("text", .text text)])
  | carry item source target => .done (g.carry item source target)
  | enter area =>
    .done (g.changeSession fun s => { s with area := g.world.area? area |>.map (·.id) })
  | walk direction area =>
    .done (g.changeSession fun s =>
      { s with heading := some direction, area := g.world.area? area |>.map (·.id) })
  | forgetHeading => .done (g.changeSession fun s => { s with heading := none })
  | unlock position =>
    match g.session.area with
    | some id => .done { g with world := g.world.unlock id position }
    | none => .done g
  | askToQuit =>
    match g.quitQuestion with
    | .ok cue => .done (g.changeSession (·.push cue))
    | .error fault => .failed g fault
  | restart => g.reset
  | finish => .done (g.changeSession fun s => { s with finished := true })
  | stumble => .failed g .unplayable
  | note n =>
    match g.noteText n with
    | .ok text => g.trace n.topic text
    | .error fault => .failed g fault

end Deed

/-- Does one deed after the other, up to the first fault. -/
def performAll : List Deed → Game → Outcome
  | [], g => .done g
  | d :: ds, g => (d.perform g).next (performAll ds)

@[simp] theorem performAll_nil (g : Game) : performAll [] g = .done g := rfl

@[simp] theorem performAll_cons (d : Deed) (ds : List Deed) (g : Game) :
    performAll (d :: ds) g = (d.perform g).next (performAll ds) := rfl

namespace Cue

def deeds : Cue → List Deed
  | .narrate text => [.tell text]
  | .enter area => [.enter area, .note (.line .entered ("enter area " ++ area))]
  | .pass => []
  | .act .finish => [.say "farewell", .finish, .note (.line .finished "session finished")]
  | .act (.hold _) => []
  | .act .missing => [.stumble]
  | .choose question options =>
    .tell question :: options.mapIdx fun i option => .offer (i + 1) option.1

/-- Whether a cue is done with once it has been played; if not it waits for an answer. -/
def completes : Cue → Bool
  | .choose .. => false
  | .act (.hold done) => done
  | _ => true

def play (cue : Cue) (g : Game) : Outcome :=
  (performAll cue.deeds g).next fun g =>
    if cue.completes then .done g
    else
      (g.changeSession fun s => { s with pending := some cue }).trace .suspended
        ("suspended on " ++ cue.kind)

end Cue

end Fabula

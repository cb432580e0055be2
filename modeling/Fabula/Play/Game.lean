import Fabula.Template
import Fabula.Play.Noun
import Fabula.World.Loading

set_option autoImplicit false

namespace Fabula

structure Session where
  area : Option String
  bag : Holdings
  queue : List Cue
  scene : Option Scene
  /-- How many cues of the scene have been played. -/
  cursor : Nat
  heading : Option String
  pending : Option Cue
  finished : Bool
  deriving Repr

def Session.start (scene : Option Scene) : Session := ⟨none, [], [], scene, 0, none, none, false⟩

structure Game where
  document : Node
  world : World
  session : Session
  catalogue : Catalogue
  traced : Bool

inductive Topic where
  | loaded
  | reset
  | suspended
  | entered
  | finished
  | command
  | taken
  | dropped
  | walked
  | opened
  deriving Repr, DecidableEq

inductive Event where
  | shown (text : String)
  | asked (prompt : String)
  | traced (topic : Topic) (line : String)
  deriving Repr, DecidableEq

inductive Fault where
  | noMessage (key : String)
  | template (fault : Template.Fault)
  | document (flaw : Flaw)
  | endOfInput
  | interrupted
  | noCue (missing : Scene.NoCue)
  /-- A cue is missing where one was to be played. -/
  | unplayable
  /-- An amount has more digits than are written. -/
  | tooLong
  deriving Repr

/-- What is left after a step: what was done before a fault stays done. -/
structure Outcome where
  game : Game
  events : List Event
  fault : Option Fault

namespace Outcome

def done (game : Game) : Outcome := ⟨game, [], none⟩

def failed (game : Game) (fault : Fault) : Outcome := ⟨game, [], some fault⟩

def next (o : Outcome) (step : Game → Outcome) : Outcome :=
  match o.fault with
  | some _ => o
  | none =>
    let p := step o.game
    ⟨p.game, o.events ++ p.events, p.fault⟩

end Outcome

inductive EngineState where
  | runningQueue
  | runningScript
  | awaitingInput
  | suspended
  | finished
  deriving Repr, DecidableEq

namespace Session

def push (s : Session) (cue : Cue) : Session := { s with queue := s.queue ++ [cue] }

def setScene (s : Session) (scene : Option Scene) : Session := { s with scene, cursor := 0 }

def remaining (s : Session) : List Cue :=
  match s.scene with
  | some scene => scene.cues.drop s.cursor
  | none => []

/-- A finished session does nothing more; a pending cue waits for its answer before the queue, and
the queue is emptied before the scene goes on. -/
def state (s : Session) : EngineState :=
  if s.finished then .finished
  else if s.pending.isSome then .suspended
  else if s.queue ≠ [] then .runningQueue
  else if s.remaining ≠ [] then .runningScript
  else .awaitingInput

end Session

namespace Game

def area? (g : Game) : Option Area := g.session.area.bind g.world.area?

def surroundings (g : Game) : Surroundings := ⟨g.world.items, g.session.bag, g.area?⟩

def changeSession (g : Game) (f : Session → Session) : Game := { g with session := f g.session }

def changeHoldings (g : Game) (place : Place) (f : Holdings → Holdings) : Game :=
  let inArea (change : Area → Area) : Game :=
    match g.session.area with
    | some id => { g with world := g.world.changeArea id change }
    | none => g
  match place with
  | .bag => g.changeSession fun s => { s with bag := f s.bag }
  | .ground => inArea fun a => { a with items := f a.items }
  | .fixture i => inArea fun a =>
      { a with fixtures := a.fixtures.modify i fun x => { x with items := f x.items } }

def carry (g : Game) (item : String) (source target : Place) : Game :=
  let n := (g.surroundings.holdings source).removable item 1
  (g.changeHoldings source (·.remove item 1)).changeHoldings target (·.add item n)

def trace (g : Game) (topic : Topic) (line : String) : Outcome :=
  ⟨g, if g.traced then [.traced topic line] else [], none⟩

def display (g : Game) (text : String) : Outcome := ⟨g, [.shown text], none⟩

def reset (g : Game) : Outcome :=
  match World.load g.document.worldRoot with
  | .error flaw => .failed g (.document flaw)
  | .ok world =>
    let g := { g with world, session := Session.start (world.scene? Node.startScene) }
    (g.trace .loaded world.summary).next fun g => g.trace .reset ("reset entry " ++ Node.startScene)

def ofDocument (document : Node) (catalogue : Catalogue) (traced : Bool) :
    Except LoadError Outcome := do
  let world ← World.ofDocument document
  let g : Game := ⟨document, world, Session.start none, catalogue, traced⟩
  pure ((g.trace .loaded world.summary).next reset)

end Game

end Fabula

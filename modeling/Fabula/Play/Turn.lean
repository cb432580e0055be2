import Fabula.Play.Verb

/-!
Turns. Each does one unit of work, in this order of priority: an answer for a pending cue, a queued
cue, a cue of the scene, or a line of the player. The lines still to be read come with the turn; an
absent line stands for an interruption.
-/

set_option autoImplicit false

namespace Fabula

abbrev Lines := List (Option String)

structure Turn where
  outcome : Outcome
  unread : Lines
  /-- Whether the session goes on. -/
  alive : Bool

def Turn.andThen (t : Turn) (rest : Game → Lines → Turn) : Turn :=
  match t.outcome.fault with
  | some _ => t
  | none =>
    let u := rest t.outcome.game t.unread
    ⟨⟨u.outcome.game, t.outcome.events ++ u.outcome.events, u.outcome.fault⟩, u.unread, u.alive⟩

namespace Game

def reading (g : Game) (lines : Lines) (step : Game → String → Outcome) : Turn :=
  let asked : Outcome := ⟨g, [.asked g.catalogue.prompt], none⟩
  match lines with
  | [] => ⟨asked.next (Outcome.failed · .endOfInput), [], true⟩
  | none :: rest => ⟨asked.next (Outcome.failed · .interrupted), rest, true⟩
  | some line :: rest => ⟨asked.next (step · line), rest, true⟩

/-- A matching answer queues the cue it leads to; any other leaves the question open. -/
def answer (cue : Cue) (g : Game) (line : String) : Outcome :=
  match cue.reply? line with
  | some follow => .done (g.changeSession fun s => { s with pending := none }.push follow)
  | none => .done g

def tick (g : Game) (lines : Lines) : Turn :=
  if g.session.finished then ⟨.done g, lines, false⟩
  else match g.session.pending with
    | some cue => g.reading lines (answer cue)
    | none =>
      match g.session.queue with
      | cue :: queue => ⟨cue.play (g.changeSession fun s => { s with queue }), lines, true⟩
      | [] =>
        match g.session.remaining with
        | cue :: _ =>
          ⟨cue.play (g.changeSession fun s => { s with cursor := s.cursor + 1 }), lines, true⟩
        | [] => g.reading lines fun g line => (g.execute line).outcome

def drainFor : Nat → Game → Lines → Turn
  | 0, g, lines => ⟨.done g, lines, true⟩
  | fuel + 1, g, lines =>
    if g.session.state = .runningQueue ∨ g.session.state = .runningScript then
      (g.tick lines).andThen (drainFor fuel)
    else ⟨.done g, lines, true⟩

def drain (g : Game) (lines : Lines) : Turn :=
  drainFor (g.session.queue.length + g.session.remaining.length) g lines

def runFor : Nat → Game → Lines → Turn
  | 0, g, lines => ⟨.done g, lines, true⟩
  | fuel + 1, g, lines =>
    let t := g.tick lines
    if t.alive then t.andThen (runFor fuel) else t

/-- How many turns a session can last: a line can bring the whole first scene back, or one cue into
the queue. -/
def turnBound (g : Game) (lines : Lines) : Nat :=
  let first := match World.load g.document.worldRoot with
    | .ok w => ((w.scene? Node.startScene).map (·.cues.length)).getD 0
    | .error _ => 0
  g.session.queue.length + g.session.remaining.length + lines.length * (first + 2) + 2

/-- Plays to the end. The end of the lines, or an interruption, is answered with a farewell. -/
def run (g : Game) (lines : Lines) : Turn :=
  let t := runFor (g.turnBound lines) g lines
  match t.outcome.fault with
  | some .endOfInput | some .interrupted =>
    { t with outcome :=
        { t.outcome with fault := none }.next (Deed.say "farewell").perform }
  | _ => t

end Game

end Fabula

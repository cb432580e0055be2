import Fabula.Sample
import Fabula.Proofs.Handling

/-!
The ledger of a game: which cues were put into its queue, and which were played. The queue is served
in order, and the scene only goes on while nothing is queued and nothing is pending.
-/

set_option autoImplicit false

namespace Fabula

/-- What has become of cues since a game last started over. -/
structure Ledger where
  queued : List Cue
  /-- Those that were taken from the queue and played. -/
  played : List Cue
  /-- Those of the scene that were played since it was set. -/
  told : List Cue
  deriving Repr

namespace Ledger

def blank : Ledger := ⟨[], [], []⟩

def queue (l : Ledger) (cues : List Cue) : Ledger := { l with queued := l.queued ++ cues }

def play (l : Ledger) (cue : Cue) : Ledger := { l with played := l.played ++ [cue] }

def tell (l : Ledger) (cue : Cue) : Ledger := { l with told := l.told ++ [cue] }

@[simp] theorem queue_nil (l : Ledger) : l.queue [] = l := by simp [queue]

/-- What was queued has been played, up to what is still in the queue; and of the scene there were
played the cues before the cursor. -/
structure Balanced (l : Ledger) (s : Session) : Prop where
  queued : l.queued = l.played ++ s.queue
  told : l.told = s.script.take s.cursor
  within : s.cursor ≤ s.script.length

namespace Balanced

variable {l : Ledger} {s : Session}

theorem start (scene : Option Scene) : blank.Balanced (Session.start scene) :=
  ⟨rfl, rfl, Nat.zero_le _⟩

theorem samePlan {t : Session} (h : l.Balanced s) (hs : s.SamePlan t) : l.Balanced t := by
  constructor
  · rw [hs.queue]
    exact h.queued
  · rw [hs.script, hs.cursor]
    exact h.told
  · rw [hs.script, hs.cursor]
    exact h.within

theorem push (h : l.Balanced s) (cues : List Cue) :
    (l.queue cues).Balanced (s.pushAll cues) := by
  refine ⟨?_, h.told, h.within⟩
  change l.queued ++ cues = l.played ++ (s.queue ++ cues)
  rw [h.queued, List.append_assoc]

theorem setScene (h : l.Balanced s) (scene : Option Scene) :
    Balanced { l with told := [] } (s.setScene scene) :=
  ⟨h.queued, rfl, Nat.zero_le _⟩

theorem play {cue : Cue} {queue : List Cue} (h : l.Balanced s) (hq : s.queue = cue :: queue) :
    (l.play cue).Balanced { s with queue } := by
  refine ⟨?_, h.told, h.within⟩
  change l.queued = l.played ++ [cue] ++ queue
  rw [h.queued, hq, List.append_assoc, List.singleton_append]

theorem tell {cue : Cue} {cues : List Cue} (h : l.Balanced s) (hr : s.remaining = cue :: cues) :
    (l.tell cue).Balanced { s with cursor := s.cursor + 1 } := by
  have hcue : s.script[s.cursor]? = some cue := Session.script_at_cursor hr
  obtain ⟨hless, -⟩ := List.getElem?_eq_some_iff.mp hcue
  refine ⟨h.queued, ?_, hless⟩
  change l.told ++ [cue] = s.script.take (s.cursor + 1)
  rw [List.take_add_one, hcue, h.told]
  rfl

end Balanced

end Ledger

namespace Game

def followed (cue : Cue) : Lines → List Cue
  | some text :: _ => (cue.reply? text).toList
  | _ => []

def enterLine (g : Game) (text : String) (l : Ledger) : Ledger :=
  if g.startsOver text then .blank else l.queue (g.asked text)

def enterTurn (g : Game) (lines : Lines) (l : Ledger) : Ledger :=
  match g.session.state with
  | .finished => l
  | .suspended => l.queue (g.session.pending.toList.flatMap fun cue => followed cue lines)
  | .runningQueue => g.session.queue.head?.elim l l.play
  | .runningScript => g.session.remaining.head?.elim l l.tell
  | .awaitingInput =>
    match lines with
    | some text :: _ => g.enterLine text l
    | _ => l

def enter (g : Game) (l : Ledger) : Handling → Ledger
  | .move (.tick lines) => g.enterTurn lines l
  | .move (.execute text) => g.enterLine text l
  | .move .reset => .blank
  | .push cue => l.queue [cue]
  | .setScene _ => { l with told := [] }
  | .aside _ => l

def keepLedger : Game → Ledger → List Handling → Ledger
  | _, l, [] => l
  | g, l, step :: steps => keepLedger (g.handle step) (g.enter l step) steps

theorem keepLedger_append (g : Game) (l : Ledger) (steps : List Handling) (step : Handling) :
    g.keepLedger l (steps ++ [step]) = (g.handled steps).enter (g.keepLedger l steps) step := by
  induction steps generalizing g l with
  | nil => rfl
  | cons first steps ih => exact ih (g.handle first) (g.enter l first)

def ledger (g : Game) (steps : List Handling) : Ledger := g.keepLedger .blank steps

theorem ledger_append (g : Game) (steps : List Handling) (step : Handling) :
    g.ledger (steps ++ [step]) = (g.handled steps).enter (g.ledger steps) step :=
  g.keepLedger_append .blank steps step

/-- What a turn does, and what is entered of it. A cue is entered as played where it is the one that
the turn plays. -/
inductive Entered (g : Game) (lines : Lines) (l : Ledger) : Turn → Ledger → Prop where
  | finished : g.session.finished = true → Entered g lines l ⟨.done g, lines, false⟩ l
  | answered {cue : Cue} : g.session.pending = some cue →
      Entered g lines l (g.reading lines (answer cue)) (l.queue (followed cue lines))
  | played {cue : Cue} {queue : List Cue} : g.session.pending = none →
      g.session.queue = cue :: queue →
      Entered g lines l ⟨cue.play (g.changeSession fun s => { s with queue }), lines, true⟩
        (l.play cue)
  | told {cue : Cue} {cues : List Cue} : g.session.pending = none → g.session.queue = [] →
      g.session.remaining = cue :: cues →
      Entered g lines l
        ⟨cue.play (g.changeSession fun s => { s with cursor := s.cursor + 1 }), lines, true⟩
        (l.tell cue)
  | unheard : lines.head?.join = none →
      Entered g lines l (g.reading lines fun g line => (g.execute line).outcome) l
  | heard {text : String} {rest : Lines} : lines = some text :: rest →
      Entered g lines l (g.reading lines fun g line => (g.execute line).outcome)
        (g.enterLine text l)

theorem tick_entered (g : Game) (lines : Lines) (l : Ledger) :
    g.Entered lines l (g.tick lines) (g.enterTurn lines l) := by
  have htakes := g.tick_takes lines
  unfold enterTurn
  generalize g.tick lines = t at htakes
  cases htakes with
  | finished hf =>
    rw [Session.state_finished hf]
    exact .finished hf
  | @answered cue hf hp =>
    rw [Session.state_suspended hf hp, hp]
    simpa using Entered.answered hp
  | @queued cue queue hf hp hq =>
    rw [Session.state_runningQueue hf hp hq, hq]
    exact .played hp hq
  | @scripted cue cues hf hp hq hr =>
    rw [Session.state_runningScript hf hp hq hr, hr]
    exact .told hp hq hr
  | commanded hstate =>
    rw [hstate]
    cases lines with
    | nil => exact .unheard rfl
    | cons line rest =>
      cases line with
      | none => exact .unheard rfl
      | some text => exact .heard rfl

theorem reset_balanced {g : Game} {w : World} (hload : World.load g.document.worldRoot = .ok w) :
    Ledger.blank.Balanced g.reset.game.session := by
  rw [reset_game hload]
  exact .start _

theorem enterLine_balanced {g : Game} {w : World} {l : Ledger}
    (hload : World.load g.document.worldRoot = .ok w) (h : l.Balanced g.session) (text : String) :
    (g.enterLine text l).Balanced (g.execute text).outcome.game.session := by
  unfold enterLine
  cases hover : g.startsOver text with
  | true =>
    rw [startsOver_execute hover]
    exact reset_balanced hload
  | false => exact (h.push _).samePlan (execute_plan hover)

theorem answer_balanced {g : Game} {l : Ledger} (h : l.Balanced g.session) (cue : Cue)
    (text : String) : (l.queue (cue.reply? text).toList).Balanced
      (answer cue g text).game.session := by
  unfold answer
  cases cue.reply? text with
  | none => simpa using h
  | some follow => exact (h.push [follow]).samePlan ⟨rfl, rfl, rfl⟩

theorem enterTurn_balanced {g : Game} {w : World} {l : Ledger}
    (hload : World.load g.document.worldRoot = .ok w) (h : l.Balanced g.session) (lines : Lines) :
    (g.enterTurn lines l).Balanced (g.tick lines).outcome.game.session := by
  have hentered := g.tick_entered lines l
  generalize g.tick lines = t, g.enterTurn lines l = after at hentered
  cases hentered with
  | finished => exact h
  | @answered cue =>
    have hreads := g.reading_reads lines (answer cue)
    generalize g.reading lines (answer cue) = t at hreads
    cases hreads with
    | ended => simpa [followed] using h
    | interrupted => simpa [followed] using h
    | line => exact answer_balanced h cue _
  | @played cue queue _ hq =>
    exact (h.play hq).samePlan (play_samePlan cue (g.changeSession fun s => { s with queue }))
  | @told cue cues _ _ hr =>
    exact (h.tell hr).samePlan
      (play_samePlan cue (g.changeSession fun s => { s with cursor := s.cursor + 1 }))
  | unheard hnone =>
    have hreads := g.reading_reads lines fun g line => (g.execute line).outcome
    generalize g.reading lines (fun g line => (g.execute line).outcome) = t at hreads
    cases hreads with
    | ended => exact h
    | interrupted => exact h
    | line => cases hnone
  | heard hlines =>
    subst hlines
    exact enterLine_balanced hload h _

theorem enter_balanced {g : Game} {w : World} {l : Ledger}
    (hload : World.load g.document.worldRoot = .ok w) (h : l.Balanced g.session)
    (step : Handling) : (g.enter l step).Balanced (g.handle step).session := by
  cases step with
  | move m =>
    cases m with
    | tick lines => exact enterTurn_balanced hload h lines
    | execute text => exact enterLine_balanced hload h text
    | reset => exact reset_balanced hload
  | push cue => exact h.push [cue]
  | setScene scene => exact h.setScene scene
  | aside a => exact h.samePlan (a.samePlan g)

theorem keepLedger_balanced {g : Game} {w : World} {l : Ledger}
    (hload : World.load g.document.worldRoot = .ok w) (h : l.Balanced g.session)
    (steps : List Handling) : (g.keepLedger l steps).Balanced (g.handled steps).session := by
  induction steps generalizing g l with
  | nil => exact h
  | cons step steps ih =>
    have hagain : World.load (g.handle step).document.worldRoot = .ok w := by
      rw [g.handle_document step]
      exact hload
    exact ih hagain (enter_balanced hload h step)

theorem ofDocument_balanced {document : Node} {catalogue : Catalogue} {traced : Bool} {o : Outcome}
    (h : ofDocument document catalogue traced = .ok o) (steps : List Handling) :
    (o.game.ledger steps).Balanced (o.game.handled steps).session := by
  obtain ⟨w, hw, hgame⟩ := ofDocument_ok h
  have hload : World.load o.game.document.worldRoot = .ok w := by
    rw [hgame]
    exact (World.ofDocument_ok.mp hw).2
  refine keepLedger_balanced hload ?_ steps
  rw [hgame]
  exact .start _

/-- Cues are played in the order in which they are queued, and none is lost or played twice, also if
it breaks off. Those of the scene are played in their order, each at a turn at which nothing is
queued or pending. -/
theorem queue_served_in_order {document : Node} {catalogue : Catalogue} {traced : Bool}
    {o : Outcome} (h : ofDocument document catalogue traced = .ok o) (steps : List Handling) :
    (o.game.ledger steps).Balanced (o.game.handled steps).session ∧
    ∀ lines, (o.game.handled steps).Entered lines (o.game.ledger steps)
      ((o.game.handled steps).tick lines)
      (o.game.ledger (steps ++ [.move (.tick lines)])) := by
  refine ⟨ofDocument_balanced h steps, fun lines => ?_⟩
  rw [ledger_append]
  exact (o.game.handled steps).tick_entered lines _

def interruption : List Handling := [.move (.tick []),
  .push (.choose "Who goes there?" [("friend", .narrate "Pass, friend.")]), .push (.act .missing),
  .move (.tick []), .push (.narrate "A bell tolls."), .move (.tick [some "who?"]),
  .move (.tick [some "friend"]), .move (.tick []), .move (.tick [])]

theorem queue_served_in_order_sample :
    ∃ o, ofDocument Sample.document Catalogue.english false = .ok o ∧
    (o.game.ledger interruption).queued.map Cue.kind =
      ["SelectCommand", "CustomCommand", "TextCommand", "TextCommand"] ∧
    (o.game.ledger interruption).played.map Cue.kind =
      ["SelectCommand", "CustomCommand", "TextCommand"] ∧
    (o.game.ledger interruption).told.length = 1 ∧
    (o.game.ledger interruption).Balanced (o.game.handled interruption).session := by
  have hrun : (ofDocument Sample.document Catalogue.english false).toOption.any (fun o =>
      (o.game.ledger interruption).queued.map Cue.kind ==
          ["SelectCommand", "CustomCommand", "TextCommand", "TextCommand"] &&
        (o.game.ledger interruption).played.map Cue.kind ==
          ["SelectCommand", "CustomCommand", "TextCommand"] &&
        (o.game.ledger interruption).told.length == 1) = true := by decide +kernel
  obtain ⟨o, ho, hrun⟩ := opens_with hrun
  simp only [Bool.and_eq_true, beq_iff_eq] at hrun
  exact ⟨o, ho, hrun.1.1, hrun.1.2, hrun.2, (queue_served_in_order ho interruption).1⟩

end Game

end Fabula

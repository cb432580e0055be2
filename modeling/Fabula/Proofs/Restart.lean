import Fabula.Proofs.Integrity
import Fabula.Proofs.Session

set_option autoImplicit false

namespace Fabula

/-- What can be done to a game: a move, or any change from outside of its session or its world. -/
inductive Intervention where
  | move (m : Move)
  | session (change : Session → Session)
  | world (change : World → World)

namespace Game

def intervene (g : Game) : Intervention → Game
  | .move m => g.move m
  | .session change => g.changeSession change
  | .world change => { g with world := change g.world }

def afterAll (g : Game) (done : List Intervention) : Game := done.foldl intervene g

theorem intervene_sameStory (g : Game) (i : Intervention) : g.SameStory (g.intervene i) := by
  cases i with
  | move m => exact g.move_sameStory m
  | session change => exact ⟨rfl, rfl, rfl⟩
  | world change => exact ⟨rfl, rfl, rfl⟩

theorem afterAll_sameStory (g : Game) (done : List Intervention) :
    g.SameStory (g.afterAll done) := by
  induction done generalizing g with
  | nil => exact .refl g
  | cons i done ih => exact (g.intervene_sameStory i).trans (ih _)

theorem reset_seen (g : Game) : g.reset.seen = [] := by
  cases h : World.load g.document.worldRoot with
  | error flaw => rw [reset_error h]; rfl
  | ok w =>
    rw [reset_eq h]
    cases g.traced <;> rfl

theorem SameStory.reset_opened {document : Node} {catalogue : Catalogue} {traced : Bool}
    {o : Outcome} (h : ofDocument document catalogue traced = .ok o) {g : Game}
    (hg : o.game.SameStory g) : g.reset.fault = none ∧ g.reset.game = o.game := by
  obtain ⟨w, hw, hgame⟩ := ofDocument_ok h
  have hload : World.load g.document.worldRoot = .ok w := by
    rw [hg.document, hgame]
    exact (World.ofDocument_ok.mp hw).2
  rw [reset_eq hload]
  refine ⟨rfl, ?_⟩
  simp only [fresh, hg.document, hg.catalogue, hg.traced, hgame]

/-- A line that starts a game over shows the notice, and is done without a fault if the document
can still be loaded. -/
theorem execute_restart {g : Game} {text notice : String}
    (hverb : (Line.ofText text).verb = "restart")
    (hnotice : g.catalogue.get? "restarted" = some notice) (hreset : g.reset.fault = none) :
    (g.execute text).outcome.fault = none ∧ (g.execute text).outcome.seen = [.shown notice] := by
  have hdeeds : (Line.ofText text).deeds? g = some [.say "restarted", .restart] := by
    simp [Line.deeds?, hverb, Verb.ofWord?, Verb.needsArgument, Verb.deeds]
  have hsay : (Deed.say "restarted").perform g = g.display notice := by
    rw [Deed.perform, message, hnotice]
    rfl
  have hrestart : (performAll [.restart] g).fault = none ∧ (performAll [.restart] g).seen = [] := by
    rw [performAll_cons, Outcome.next_fault, Outcome.next_seen, Deed.perform, hreset, reset_seen]
    simp
  have hblank : ¬(Line.ofText text).verb = "" := by simp [hverb]
  simp only [execute, hblank, hdeeds, if_false, Outcome.next_fault, Outcome.next_seen, trace_fault,
    trace_seen, trace_game, performAll_cons _ [.restart], hsay]
  simpa using hrestart

/-- A new start of a game that was opened, and has kept its story, is the opening again. A line that
asks for it shows the notice, and what follows is played as if the game had just been opened. -/
theorem restart_reopens {document : Node} {catalogue : Catalogue} {traced : Bool} {o : Outcome}
    (h : ofDocument document catalogue traced = .ok o) (done : List Intervention) :
    ((o.game.afterAll done).reset.fault = none ∧ (o.game.afterAll done).reset.game = o.game) ∧
    (∀ m, (o.game.afterAll done).restarts m = true → (o.game.afterAll done).move m = o.game) ∧
    ∀ text notice lines, (o.game.afterAll done).session.state = .awaitingInput →
      (Line.ofText text).verb = "restart" → catalogue.get? "restarted" = some notice →
      ((o.game.afterAll done).tick (some text :: lines)).outcome.seen =
        [.asked catalogue.prompt, .shown notice] ∧
      (o.game.afterAll done).run (some text :: lines) =
        ((o.game.afterAll done).tick (some text :: lines)).andThen fun _ _ => o.game.run lines := by
  have hstory := o.game.afterAll_sameStory done
  generalize o.game.afterAll done = g at hstory
  have hcatalogue : g.catalogue = catalogue := by
    obtain ⟨w, -, hgame⟩ := ofDocument_ok h
    rw [hstory.catalogue, hgame]
  have hreset := hstory.reset_opened h
  refine ⟨hreset, fun m hm => (restarts_move hm).trans hreset.2, ?_⟩
  intro text notice lines hstate hverb hnotice
  have hover : g.startsOver text = true := by simp [startsOver, hverb, hcatalogue, hnotice]
  obtain ⟨hfault, hseen⟩ := execute_restart hverb (hcatalogue ▸ hnotice) hreset.1
  have htick : g.tick (some text :: lines) = ⟨⟨(g.execute text).outcome.game,
      .asked g.catalogue.prompt :: (g.execute text).outcome.events,
      (g.execute text).outcome.fault⟩, lines, true⟩ := by
    rw [tick_awaiting hstate]
    rfl
  have hgame : (g.execute text).outcome.game = o.game := (startsOver_execute hover).trans hreset.2
  have hgo : g.run (some text :: lines) = (g.tick (some text :: lines)).andThen Game.run :=
    run_step (by rw [htick]) (by rw [htick]; exact hfault)
  rw [hgo, htick, hgame, hfault]
  refine ⟨?_, rfl⟩
  rw [Outcome.seen, List.filter_cons_of_pos rfl, ← Outcome.seen, hseen, hcatalogue]

def mischief : List Intervention := arrival.map .move ++
  [.move (.execute "take letter from well"),
    .session fun s => { s with bag := s.bag.add "coin" 7, pending := none },
    .world fun w => w.changeArea "hall" fun a => { a with exits := [] }]

theorem restart_reopens_sample : ∃ o, ofDocument Sample.document Catalogue.english false = .ok o ∧
    (o.game.afterAll mischief).session.bag = [("letter", 1), ("coin", 7)] ∧
    (o.game.afterAll mischief).reset.game = o.game ∧
    (o.game.afterAll mischief).run [some "Restart now", some "1"] =
      ((o.game.afterAll mischief).tick [some "Restart now", some "1"]).andThen
        fun _ _ => o.game.run [some "1"] := by
  have hrun : (ofDocument Sample.document Catalogue.english false).toOption.any (fun o =>
      (o.game.afterAll mischief).session.bag == [("letter", 1), ("coin", 7)] &&
        (o.game.afterAll mischief).session.state == .awaitingInput) = true := by decide +kernel
  cases h : ofDocument Sample.document Catalogue.english false with
  | error e => simp [h, Except.toOption] at hrun
  | ok o =>
    simp only [h, Except.toOption, Option.any_some, Bool.and_eq_true, beq_iff_eq] at hrun
    obtain ⟨⟨-, hgame⟩, -, hline⟩ := restart_reopens h mischief
    exact ⟨o, rfl, hrun.1, hgame,
      (hline "Restart now" "Restarting..." [some "1"] hrun.2 (by decide +kernel) rfl).2⟩

end Game

end Fabula

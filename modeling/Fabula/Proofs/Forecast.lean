import Fabula.Proofs.Ledger

set_option autoImplicit false

namespace Fabula

theorem Scene.cueAt_of_getElem? {s : Scene} {i : Nat} {cue : Cue} (h : s.cues[i]? = some cue) :
    s.cueAt i = .ok cue := by
  change s.cueAt (.ofNat i) = _
  simp only [cueAt, h]
  rfl

namespace Game

/-- What a state of the engine tells of the turn that is taken in it. Where a line can not be read,
the game is left as it was. -/
def Foretells (g : Game) (lines : Lines) (t : Turn) : EngineState → Prop
  | .finished => t = ⟨.done g, lines, false⟩
  | .suspended => ∃ cue, g.session.pending = some cue ∧
      t = ⟨⟨match lines.first?.bind cue.reply? with
          | none => g
          | some follow => g.changeSession fun s =>
              { s with pending := none, queue := s.queue ++ [follow] },
        [.asked g.catalogue.prompt], lines.fault?⟩, lines.tail, true⟩
  | .runningQueue => ∃ cue queue, g.session.queue = cue :: queue ∧
      t = ⟨cue.play (g.changeSession fun s => { s with queue }), lines, true⟩ ∧
      t.outcome.game.session.queue = queue
  | .runningScript => ∃ scene cue, g.session.scene = some scene ∧
      scene.cueAt g.session.cursor = .ok cue ∧
      t = ⟨cue.play (g.changeSession fun s => { s with cursor := s.cursor + 1 }), lines, true⟩ ∧
      t.outcome.game.session.scene = some scene ∧
      t.outcome.game.session.cursor = g.session.cursor + 1
  | .awaitingInput =>
      t = ⟨match lines.first? with
        | none => ⟨g, [.asked g.catalogue.prompt], lines.fault?⟩
        | some text => ⟨(g.execute text).outcome.game,
            .asked g.catalogue.prompt :: (g.execute text).outcome.events,
            (g.execute text).outcome.fault⟩, lines.tail, true⟩

theorem tick_foretold (g : Game) (lines : Lines) :
    g.Foretells lines (g.tick lines) g.session.state := by
  have htakes := g.tick_takes lines
  generalize g.tick lines = t at htakes
  cases htakes with
  | finished hf =>
    rw [Session.state_finished hf]
    rfl
  | @answered cue hf hp =>
    rw [Session.state_suspended hf hp]
    exact ⟨cue, hp, g.reading_answer cue lines⟩
  | @queued cue queue hf hp hq =>
    rw [Session.state_runningQueue hf hp hq]
    exact ⟨cue, queue, hq, rfl, (play_samePlan cue _).queue⟩
  | @scripted cue cues hf hp hq hr =>
    rw [Session.state_runningScript hf hp hq hr]
    have hcue := Session.script_at_cursor hr
    cases hscene : g.session.scene with
    | none => simp [Session.script, hscene] at hcue
    | some scene =>
      have hget : scene.cues[g.session.cursor]? = some cue := by
        simpa [Session.script, hscene] using hcue
      have hat := Scene.cueAt_of_getElem? hget
      have hplan := play_samePlan cue (g.changeSession fun s => { s with cursor := s.cursor + 1 })
      exact ⟨scene, cue, hscene, hat, rfl, hplan.scene.trans hscene, hplan.cursor⟩
  | commanded hstate =>
    rw [hstate]
    have hreads := g.reading_reads lines fun g line => (g.execute line).outcome
    generalize g.reading lines (fun g line => (g.execute line).outcome) = t at hreads
    cases hreads <;> rfl

/-- At every point of play the state of the engine foretells the turn, and the cursor is in the
scene. -/
theorem state_foretells_turn {document : Node} {catalogue : Catalogue} {traced : Bool} {o : Outcome}
    (h : ofDocument document catalogue traced = .ok o) (steps : List Handling) :
    (∀ lines, (o.game.handled steps).Foretells lines ((o.game.handled steps).tick lines)
      (o.game.handled steps).session.state) ∧
    (o.game.handled steps).session.cursor ≤ (o.game.handled steps).session.script.length :=
  ⟨fun lines => tick_foretold _ lines, (ofDocument_balanced h steps).within⟩

def hesitation : List Handling := [.move (.tick []), .push (.narrate "A bell tolls."),
  .move (.execute "quit"), .move (.tick []), .move (.tick []), .setScene none]

theorem state_foretells_turn_sample :
    ∃ o, ofDocument Sample.document Catalogue.english false = .ok o ∧
    (o.game.handled hesitation).session.state = .suspended ∧
    (o.game.handled hesitation).Foretells [some "2"]
      ((o.game.handled hesitation).tick [some "2"]) .suspended ∧
    ((o.game.handled hesitation).tick [some "2"]).outcome.game.session.queue.map Cue.kind =
      ["ContinueCommand"] := by
  have hrun : (ofDocument Sample.document Catalogue.english false).toOption.any (fun o =>
      (o.game.handled hesitation).session.state == .suspended &&
        ((o.game.handled hesitation).tick [some "2"]).outcome.game.session.queue.map Cue.kind ==
          ["ContinueCommand"]) = true := by decide +kernel
  obtain ⟨o, ho, hrun⟩ := opens_with hrun
  simp only [Bool.and_eq_true, beq_iff_eq] at hrun
  have hforetold := (state_foretells_turn ho hesitation).1 [some "2"]
  rw [hrun.1] at hforetold
  exact ⟨o, ho, hrun.1, hforetold, hrun.2⟩

end Game

end Fabula

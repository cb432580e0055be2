import Fabula.Proofs.Farewell

set_option autoImplicit false

namespace Fabula

def Fault.OverAmount (fault : Fault) (w : World) : Prop :=
  fault.IsOverlong = true ∧ ∃ item, (Text.tooLong : Int) ≤ w.pieces item

namespace Game

variable {document : Node} {w : World} {g : Game}

theorem Spoken.after (hg : g.Spoken document w) (hload : World.load document.worldRoot = .ok w)
    (moves : List Move) : (g.after moves).Spoken document w :=
  after_keeps (fun _ m h => h.move hload m) hg moves

theorem Tallied.overAmount (hg : g.Tallied document w) {fault : Fault}
    (h : fault.IsOverlong = true ∧ g.Overfull) : fault.OverAmount w := by
  obtain ⟨hlong, item, hitem⟩ := h
  rw [hg.pieces] at hitem
  exact ⟨hlong, item, hitem⟩

theorem Spoken.overAmount (hg : g.Spoken document w) {fault : Fault}
    (h : fault.IsOverlong = true ∧ g.Overfull) : fault.OverAmount w :=
  hg.tallied.overAmount h

/-- However a game in English has been played, no line of the player breaks it off, and a turn only
passes on that no line can be read, up to amounts that are too long to be written. -/
theorem faults_of_input_or_amount {traced : Bool} {o : Outcome}
    (h : ofDocument document .english traced = .ok o) (moves : List Move) :
    ∃ w, World.ofDocument document = .ok w ∧
    (∀ text fault, ((o.game.after moves).execute text).outcome.fault = some fault →
      fault.OverAmount w) ∧
    ∀ lines fault, ((o.game.after moves).tick lines).outcome.fault = some fault →
      lines.fault? = some fault ∨ fault.OverAmount w := by
  obtain ⟨w, hw, -⟩ := ofDocument_ok h
  have hg : (o.game.after moves).Spoken document w :=
    (ofDocument_spoken h hw).after (World.ofDocument_ok.mp hw).2 moves
  refine ⟨w, hw, fun text fault hfault => ?_, fun lines fault hfault => ?_⟩
  · exact hg.overAmount (hg.tallied.steady.execute_fluent hg.english text fault hfault)
  · exact (hg.tick_fault hfault).imp_right hg.overAmount

theorem faults_of_input_or_amount_sample :
    ∃ o w, ofDocument Sample.document .english false = .ok o ∧
    World.ofDocument Sample.document = .ok w ∧
    (o.game.after arrival).session.state = .awaitingInput ∧
    (∀ text fault, ((o.game.after arrival).execute text).outcome.fault = some fault →
      fault.OverAmount w) ∧
    ∀ fault, ((o.game.after arrival).tick [none]).outcome.fault = some fault →
      fault = .interrupted ∨ fault.OverAmount w := by
  have hrun : (ofDocument Sample.document .english false).toOption.any (fun o =>
      (o.game.after arrival).session.state == .awaitingInput) = true := by decide +kernel
  obtain ⟨o, ho, hstate⟩ := opens_with hrun
  obtain ⟨w, hw, hexecute, htick⟩ := faults_of_input_or_amount ho arrival
  refine ⟨o, w, ho, hw, beq_iff_eq.mp hstate, hexecute, fun fault hfault => ?_⟩
  exact (htick [none] fault hfault).imp_left fun hread => (Option.some.inj hread).symm

/-- The coins of the hoard can be taken, and then the line that puts one down breaks off. -/
theorem drop_breaks_off : ∃ o, ofDocument (hoard Text.nines) .english false = .ok o ∧
    ∃ fault, ((o.game.after [.tick [], .execute "take coin"]).execute "drop coin").outcome.fault =
      some fault ∧ fault.IsOverlong = true := by
  obtain ⟨o, ho, hgame, -⟩ := hoard_opens
  have hbroken : ((hoardGame.after [.tick [], .execute "take coin"]).execute
      "drop coin").outcome.fault.any Fault.IsOverlong = true := by decide +kernel
  rw [Option.any_eq_true] at hbroken
  rw [← hgame] at hbroken
  exact ⟨o, ho, hbroken⟩

end Game

end Fabula

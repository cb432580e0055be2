import Fabula.Proofs.Integrity

set_option autoImplicit false

namespace Fabula

namespace Session

def script (s : Session) : List Cue := (s.scene.map (·.cues)).getD []

theorem remaining_eq (s : Session) : s.remaining = s.script.drop s.cursor := by
  cases hs : s.scene with
  | none => simp [remaining, script, hs]
  | some scene => simp [remaining, script, hs]

theorem script_at_cursor {s : Session} {cue : Cue} {cues : List Cue}
    (h : s.remaining = cue :: cues) : s.script[s.cursor]? = some cue := by
  rw [remaining_eq] at h
  rw [← List.head?_drop, h]
  rfl

structure SamePlan (s t : Session) : Prop where
  queue : t.queue = s.queue
  scene : t.scene = s.scene
  cursor : t.cursor = s.cursor

theorem SamePlan.script {s t : Session} (h : s.SamePlan t) : t.script = s.script := by
  rw [Session.script, Session.script, h.scene]

def pushAll (s : Session) (cues : List Cue) : Session := { s with queue := s.queue ++ cues }

@[simp] theorem pushAll_nil (s : Session) : s.pushAll [] = s := by simp [pushAll]

end Session

namespace Game

/-- To play a cue changes nothing in what is played after it. -/
theorem play_samePlan (cue : Cue) (g : Game) : g.session.SamePlan (cue.play g).game.session := by
  have hplayed := cue.play_played g
  generalize (cue.play g).game = after at hplayed
  cases hplayed <;> exact ⟨rfl, rfl, rfl⟩

/-- Of the lines that do not start the game over, only `quit` bears on what is still to be
played. -/
theorem Effect.samePlan {g after : Game} {text : String} (he : g.Effect (Line.ofText text) after)
    (hr : g.startsOver text = false) (hquit : (Line.ofText text).verb ≠ "quit") :
    g.session.SamePlan after.session := by
  have hleaves := he.leaves
  generalize after.session = left at hleaves ⊢
  cases hleaves with
  | restart hl hm => simp [startsOver, hl, hm] at hr
  | quit hl => exact absurd hl hquit
  | moved => exact ⟨rfl, rfl, rfl⟩

def asked (g : Game) (text : String) : List Cue :=
  if (Line.ofText text).verb = "quit" then g.quitQuestion.toOption.toList else []

theorem execute_quit {g : Game} {text : String} (hquit : (Line.ofText text).verb = "quit") :
    (g.execute text).outcome.game.session = g.session.pushAll (g.asked text) := by
  have hd : (Line.ofText text).deeds? g = some [.askToQuit] := by
    simp [Line.deeds?, hquit, Verb.ofWord?, Verb.needsArgument, Verb.deeds]
  have hverb : ¬(Line.ofText text).verb = "" := by simp [hquit]
  simp only [execute, hverb, hd, if_false, trace_next]
  rw [performAll_then_quiet _ (by simp), Deed.perform, asked, if_pos hquit]
  cases g.quitQuestion with
  | error fault => exact (Session.pushAll_nil g.session).symm
  | ok question => rfl

theorem execute_plan {g : Game} {text : String} (hr : g.startsOver text = false) :
    (g.session.pushAll (g.asked text)).SamePlan (g.execute text).outcome.game.session := by
  by_cases hquit : (Line.ofText text).verb = "quit"
  · rw [execute_quit hquit]
    exact ⟨rfl, rfl, rfl⟩
  · have hnone : g.asked text = [] := by rw [asked, if_neg hquit]
    rw [hnone, Session.pushAll_nil]
    exact (g.execute_effect text).samePlan hr hquit

end Game

/-- A change of a game that bears neither on its document nor on what is still to be played. -/
structure Aside where
  change : Game → Game
  document : ∀ g : Game, (change g).document = g.document
  samePlan : ∀ g : Game, g.session.SamePlan (change g).session

/-- What can be done to a game: a move, a cue put into the queue, a scene set, or a change aside.
This covers cues that do what no `Action` does. Such a cue is played like one that passes, waits or
breaks off; what it does besides, it does by setting a scene, by queuing cues, or aside. -/
inductive Handling where
  | move (m : Move)
  | push (cue : Cue)
  | setScene (scene : Option Scene)
  | aside (a : Aside)

namespace Game

def handle (g : Game) : Handling → Game
  | .move m => g.move m
  | .push cue => g.changeSession (·.push cue)
  | .setScene scene => g.changeSession (·.setScene scene)
  | .aside a => a.change g

def handled (g : Game) (steps : List Handling) : Game := steps.foldl handle g

theorem handle_document (g : Game) (step : Handling) :
    (g.handle step).document = g.document := by
  cases step with
  | move m => exact (g.move_sameStory m).document
  | push cue => rfl
  | setScene scene => rfl
  | aside a => exact a.document g

end Game

end Fabula

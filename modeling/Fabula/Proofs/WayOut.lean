import Fabula.Proofs.Farewell
import Fabula.Proofs.Wording

/-!
The way out of a game. Where every question has an option, the first options lead to the end of all
that is still to be played, and then the player can quit. A question without options stays open for
ever.
-/

set_option autoImplicit false

namespace Fabula

namespace Cue

mutual

/-- Whether every question has an option, at any depth. -/
def answerable : Cue → Bool
  | .narrate _ | .enter _ | .pass | .act _ => true
  | .choose _ options => !options.isEmpty && optionsAnswerable options

def optionsAnswerable : List (String × Cue) → Bool
  | [] => true
  | (_, cue) :: options => cue.answerable && optionsAnswerable options

end

theorem optionsAnswerable_eq (options : List (String × Cue)) :
    optionsAnswerable options = options.all fun option => option.2.answerable := by
  induction options with
  | nil => simp [optionsAnswerable]
  | cons option options ih => simp [optionsAnswerable, ih]

theorem answerable_of_reply? {cue follow : Cue} {line : String} (hcue : cue.answerable = true)
    (h : cue.reply? line = some follow) : follow.answerable = true := by
  cases cue with
  | choose question options =>
    obtain ⟨text, hmem⟩ := mem_of_option? h
    rw [answerable, optionsAnswerable_eq, Bool.and_eq_true, List.all_eq_true] at hcue
    exact hcue.2 (text, follow) hmem
  | _ => simp [reply?] at h

theorem answerable_inherited : Inherited fun cue => cue.answerable = true where
  answered _ _ _ := answerable_of_reply?
  quit question yes no := by simp [answerable, optionsAnswerable]

mutual

def turns : Cue → Nat
  | .narrate _ | .enter _ | .pass | .act _ => 1
  | .choose _ options => 1 + answerTurns options

def answerTurns : List (String × Cue) → Nat
  | [] => 0
  | (_, cue) :: _ => 1 + cue.turns

end

def allTurns : List Cue → Nat
  | [] => 0
  | cue :: cues => cue.turns + allTurns cues

theorem allTurns_append (first second : List Cue) :
    allTurns (first ++ second) = allTurns first + allTurns second := by
  induction first with
  | nil => simp [allTurns]
  | cons cue first ih =>
    rw [List.cons_append, allTurns, allTurns, ih]
    omega

theorem turns_pos (cue : Cue) : 0 < cue.turns := by
  cases cue <;> simp only [turns] <;> omega

theorem reply_one (question text : String) (follow : Cue) (options : List (String × Cue)) :
    (choose question ((text, follow) :: options)).reply? "1" = some follow := by
  have htrim : Text.trim "1" = Nat.repr 1 := by decide +kernel
  rw [reply?, option?, if_pos (.inl htrim)]

theorem first_answer {cue : Cue} (hwaits : cue.completes = false) (hcue : cue.answerable = true)
    (hdone : ∀ action ∈ cue.actions, action = .finish) :
    ∃ follow, cue.reply? "1" = some follow ∧ cue.turns = follow.turns + 2 := by
  cases cue with
  | choose question options =>
    cases options with
    | nil => simp [answerable] at hcue
    | cons option options =>
      obtain ⟨text, follow⟩ := option
      refine ⟨follow, reply_one question text follow options, ?_⟩
      rw [turns, answerTurns]
      omega
  | act action =>
    rw [hdone action (by simp [actions])] at hwaits
    cases hwaits
  | _ => cases hwaits

end Cue

namespace Session

def ahead (s : Session) : Nat :=
  Cue.allTurns s.queue + Cue.allTurns s.remaining + s.pending.elim 0 fun cue => cue.turns - 1

theorem ahead_queued {s : Session} {cue : Cue} {queue : List Cue} (h : s.queue = cue :: queue) :
    { s with queue }.ahead + cue.turns = s.ahead := by
  have hsame : { s with queue }.remaining = s.remaining := rfl
  simp only [ahead, hsame, h, Cue.allTurns]
  omega

theorem ahead_scripted {s : Session} {cue : Cue} {cues : List Cue} (h : s.remaining = cue :: cues) :
    { s with cursor := s.cursor + 1 }.ahead + cue.turns = s.ahead := by
  have hnext : { s with cursor := s.cursor + 1 }.remaining = cues := remaining_next h
  simp only [ahead, hnext, h, Cue.allTurns]
  omega

theorem ahead_answered {s : Session} {cue follow : Cue} (hp : s.pending = some cue)
    (h : cue.turns = follow.turns + 2) :
    ({ s with pending := none }.push follow).ahead < s.ahead := by
  have hsame : ({ s with pending := none }.push follow).remaining = s.remaining := rfl
  have hqueue : Cue.allTurns ({ s with pending := none }.push follow).queue =
      Cue.allTurns s.queue + follow.turns := Cue.allTurns_append s.queue [follow]
  have hnone : ({ s with pending := none }.push follow).pending = none := rfl
  rw [ahead, ahead, hsame, hqueue, hnone, hp]
  simp only [Option.elim]
  omega

def Waits (s : Session) : Prop := ∀ cue, s.pending = some cue → cue.completes = false

theorem waits_of_none {s : Session} (h : s.pending = none) : s.Waits := by
  intro cue hcue
  rw [h] at hcue
  cases hcue

end Session

namespace Game

theorem played_ahead {g after : Game} {cue : Cue} (hp : Cue.Played g cue after)
    (hnone : g.session.pending = none) : after.session.ahead < g.session.ahead + cue.turns := by
  have hpos := cue.turns_pos
  cases hp with
  | nothing => omega
  | enter =>
    change g.session.ahead < _
    omega
  | finish =>
    change g.session.ahead < _
    omega
  | suspend =>
    have hahead : (g.changeSession fun s => { s with pending := some cue }).session.ahead =
        g.session.ahead + (cue.turns - 1) := by
      rw [Session.ahead, Session.ahead, hnone]
      rfl
    omega

def Finishes (g : Game) (lines : Lines) : Prop :=
  ∃ turns t, g.Ends lines turns t ∧ t.outcome.fault = none ∧
    t.outcome.game.session.finished = true

variable {g : Game} {lines rest : Lines}

theorem Finishes.of_finished (hf : g.session.finished = true) : g.Finishes lines := by
  have htick := tick_finished hf lines
  refine ⟨1, _, .last (.inl ?_), ?_, ?_⟩
  · rw [htick]
  · rw [htick]
    rfl
  · rw [htick]
    exact hf

theorem Finishes.turn {o : Outcome} (htick : g.tick lines = ⟨o, rest, true⟩)
    (hfault : o.fault = none) (h : o.game.Finishes rest) : g.Finishes lines := by
  obtain ⟨turns, t, hends, hnone, hover⟩ := h
  have hquiet : (g.tick lines).outcome.fault = none := by
    rw [htick]
    exact hfault
  have hlater : Ends (g.tick lines).outcome.game (g.tick lines).unread turns t := by
    rw [htick]
    exact hends
  have halive : (g.tick lines).alive = true := by rw [htick]
  refine ⟨turns + 1, _, .more halive hquiet hlater, ?_, ?_⟩
  · rw [Turn.andThen_fault hquiet]
    exact hnone
  · rw [Turn.andThen, hquiet]
    exact hover

def exitLines (ones : Nat) : Lines := List.replicate ones (some "1") ++ [some "quit", some "1"]

theorem exitLines_succ (ones : Nat) : exitLines (ones + 1) = some "1" :: exitLines ones := by
  rw [exitLines, List.replicate_succ, List.cons_append, exitLines]

theorem trace_next_fault (topic : Topic) (line : String) (step : Game → Outcome) :
    ((g.trace topic line).next step).fault = (step g).fault := rfl

theorem execute_one (henglish : g.catalogue = .english) :
    (g.execute "1").outcome.fault = none ∧ (g.execute "1").outcome.game = g := by
  have hline : Line.ofText "1" = ⟨"1", []⟩ := by decide +kernel
  have hdeeds : Line.deeds? ⟨"1", []⟩ g = none := rfl
  have hverb : ¬("1" : String) = "" := by decide
  simp only [execute, hline, hdeeds, hverb, if_false, trace_next, trace_next_fault]
  exact ⟨Deed.perform_smooth rfl henglish, Deed.perform_quiet rfl g⟩

def quitCue : Cue := .choose "Are you sure?" [("yes", .act .finish), ("no", .pass)]

theorem quit_answer (henglish : g.catalogue = .english) {text : String}
    (hverb : (Line.ofText text).verb = "quit") :
    (g.execute text).outcome.game = g.changeSession (·.push quitCue) ∧
    (g.execute text).outcome.seen = [] ∧ (g.execute text).outcome.fault = none := by
  have hdeeds : (Line.ofText text).deeds? g = some [.askToQuit] := by
    simp [Line.deeds?, hverb, Verb.ofWord?, Verb.needsArgument, Verb.deeds]
  have hask : performAll [.askToQuit] g = .done (g.changeSession (·.push quitCue)) := by
    rw [performAll_cons, Deed.perform, quitQuestion_english henglish]
    rfl
  rw [execute_game hdeeds, execute_seen hdeeds, execute_fault hdeeds, hask]
  exact ⟨rfl, rfl, rfl⟩

def ended (g : Game) : Game := g.changeSession fun s => { s with finished := true }

theorem play_finish (henglish : g.catalogue = .english) :
    ((Cue.act .finish).play g).game = g.ended ∧ ((Cue.act .finish).play g).fault = none := by
  refine ⟨?_, play_smooth henglish (by simp [Cue.actions])⟩
  rw [Cue.play, Cue.deeds, performAll_cons, say_shown "farewell" henglish rfl]
  rfl

theorem Finishes.command {text : String} (hstate : g.session.state = .awaitingInput)
    (hfault : (g.execute text).outcome.fault = none)
    (h : (g.execute text).outcome.game.Finishes rest) : g.Finishes (some text :: rest) :=
  .turn (tick_text hstate text rest) hfault h

/-- Where nothing is left to be played, the wish to quit is asked about, and a first answer
confirms it. -/
theorem Idle.finishes_quit {w : World} (hg : g.Idle w) (hstate : g.session.state = .awaitingInput) :
    g.Finishes [some "quit", some "1"] := by
  have hquit : (Line.ofText "quit").verb = "quit" := by decide +kernel
  obtain ⟨hasked, -, hfault⟩ := quit_answer hg.catalogue hquit
  refine .command hstate hfault ?_
  rw [hasked]
  have hquestion := hg.play_choose "Are you sure?" [("yes", .act .finish), ("no", .pass)]
  refine .turn (hg.tick_queued quitCue [some "1"]).2 (by rw [quitCue, hquestion]) ?_
  rw [quitCue, hquestion]
  refine .turn (hg.tick_answered (Cue.reply_one ..) []) rfl ?_
  obtain ⟨hover, hsmooth⟩ := play_finish hg.catalogue
  exact .turn (hg.tick_queued (.act .finish) []).2 hsmooth (.of_finished (by rw [hover]; rfl))

theorem Idle.finishes_exit {w : World} (hg : g.Idle w) (hstate : g.session.state = .awaitingInput)
    (ones : Nat) : g.Finishes (exitLines ones) := by
  induction ones with
  | zero => exact hg.finishes_quit hstate
  | succ ones ih =>
    obtain ⟨hfault, hsame⟩ := execute_one hg.catalogue
    rw [exitLines_succ]
    refine .command hstate hfault ?_
    rw [hsame]
    exact ih

structure Passable (document : Node) (w : World) (g : Game) : Prop extends
    Spoken document w g where
  answerable : ∀ cue ∈ g.session.agenda, cue.answerable = true
  waits : g.session.Waits

theorem played_waits {after : Game} {cue : Cue} (hp : Cue.Played g cue after)
    (hg : g.session.Waits) : after.session.Waits := by
  cases hp with
  | suspend hwaits =>
    intro other hother
    rw [← Option.some.inj hother]
    exact hwaits
  | _ => exact hg

theorem Effect.waits {after : Game} {l : Line} (he : g.Effect l after)
    (hreset : g.reset.game.session.Waits) (hg : g.session.Waits) : after.session.Waits := by
  have hleaves := he.leaves
  generalize after.session = left at hleaves ⊢
  cases hleaves with
  | restart => exact hreset
  | quit => exact hg
  | moved => exact hg

theorem Turned.waits {after : Game} (ht : g.Turned lines after)
    (hreset : g.reset.game.session.Waits) (hg : g.session.Waits) : after.session.Waits := by
  cases ht with
  | nothing => exact hg
  | answer => exact Session.waits_of_none rfl
  | queued _ hp => exact played_waits hp hg
  | scripted _ hp => exact played_waits hp hg
  | line _ _ he => exact he.waits hreset hg

variable {document : Node} {w : World}

theorem Passable.move (hload : World.load document.worldRoot = .ok w)
    (hw : w.EachCue fun cue => cue.answerable = true) (hg : g.Passable document w) (m : Move) :
    (g.move m).Passable document w := by
  have hown : World.load g.document.worldRoot = .ok w := by
    rw [hg.tallied.document]
    exact hload
  have hreset : g.reset.game.session.Waits := by
    rw [reset_game hown]
    exact Session.waits_of_none rfl
  refine ⟨hg.toSpoken.move hload m,
    move_agenda hown Cue.answerable_inherited hw hg.answerable m, ?_⟩
  cases m with
  | tick lines => exact (g.tick_turned lines).waits hreset hg.waits
  | execute text => exact (g.execute_effect text).waits hreset hg.waits
  | reset => exact hreset

theorem ofDocument_passable {traced : Bool} {o : Outcome}
    (h : ofDocument document .english traced = .ok o) (hw : World.ofDocument document = .ok w)
    (hcues : w.EachCue fun cue => cue.answerable = true) : o.game.Passable document w := by
  obtain ⟨v, hv, hgame⟩ := ofDocument_ok h
  cases hw.symm.trans hv
  refine ⟨ofDocument_spoken h hw, ofDocument_agenda h (by rw [hgame]; exact hcues), ?_⟩
  rw [hgame]
  exact Session.waits_of_none rfl

/-- What the next turn does on the way out: it plays a cue, or takes a first option, and then less
is ahead. -/
inductive Advances (g : Game) : Prop where
  | finished : g.session.finished = true → Advances g
  | played {o : Outcome} : (∀ lines, g.tick lines = ⟨o, lines, true⟩) → o.fault = none →
      o.game.session.ahead < g.session.ahead → Advances g
  | answered {o : Outcome} : (∀ lines, g.tick (some "1" :: lines) = ⟨o, lines, true⟩) →
      o.fault = none → o.game.session.ahead < g.session.ahead → Advances g
  | awaiting : g.Idle g.world → g.session.state = .awaitingInput → Advances g

theorem Spoken.advances_played (hg : g.Spoken document w) {cue : Cue}
    (hcue : cue ∈ g.session.agenda) {g' : Game}
    (htick : ∀ lines, g.tick lines = ⟨cue.play g', lines, true⟩)
    (hsame : g'.catalogue = g.catalogue) (hnone : g'.session.pending = none)
    (hless : g'.session.ahead + cue.turns = g.session.ahead) : g.Advances := by
  have hsmooth : (cue.play g').fault = none :=
    play_smooth (hsame.trans hg.english) (hg.agenda cue hcue)
  have hlower := played_ahead (cue.play_played g') hnone
  exact .played htick hsmooth (by omega)

theorem Passable.advances (hg : g.Passable document w) : g.Advances := by
  cases hf : g.session.finished with
  | true => exact .finished hf
  | false =>
    cases hp : g.session.pending with
    | some cue =>
      have hcue : cue ∈ g.session.agenda := by simp [Session.agenda, hp]
      obtain ⟨follow, hreply, hturns⟩ :=
        Cue.first_answer (hg.waits cue hp) (hg.answerable cue hcue) (hg.agenda cue hcue)
      have htick : ∀ lines, g.tick (some "1" :: lines) =
          ⟨⟨g.changeSession fun s => { s with pending := none }.push follow,
            [.asked g.catalogue.prompt], none⟩, lines, true⟩ := by
        intro lines
        have hfirst : Lines.first? (some "1" :: lines) = some "1" := rfl
        rw [tick_pending hf hp, reading_answer, hfirst, Option.bind_some, hreply]
        rfl
      exact .answered htick rfl (Session.ahead_answered hp hturns)
    | none =>
      cases hq : g.session.queue with
      | cons cue queue =>
        have hcue : cue ∈ g.session.agenda := by simp [Session.agenda, hq]
        exact hg.advances_played hcue (tick_queued hf hp hq) rfl hp (Session.ahead_queued hq)
      | nil =>
        cases hr : g.session.remaining with
        | cons cue cues =>
          have hcue := g.session.remaining_subset (by simp [hr] : cue ∈ g.session.remaining)
          exact hg.advances_played hcue (tick_scripted hf hp hq hr) rfl hp
            (Session.ahead_scripted hr)
        | nil =>
          exact .awaiting ⟨rfl, hg.english, hf, hp, hq⟩
            (Session.state_eq_awaitingInput.mpr ⟨hf, hp, hq, hr⟩)

/-- There are so many first options to be chosen that all is played in the end. -/
theorem Passable.way_out (hload : World.load document.worldRoot = .ok w)
    (hw : w.EachCue fun cue => cue.answerable = true) (hg : g.Passable document w) :
    ∃ enough, ∀ ones ≥ enough, g.Finishes (exitLines ones) := by
  -- The turns that are ahead are the measure: every turn lowers it, until a line is awaited.
  induction hahead : g.session.ahead using Nat.strongRecOn generalizing g with
  | ind ahead ih =>
    cases hg.advances with
    | finished hf => exact ⟨0, fun _ _ => .of_finished hf⟩
    | awaiting hidle hstate => exact ⟨0, fun ones _ => hidle.finishes_exit hstate ones⟩
    | played htick hfault hless =>
      have hnext := hg.move hload hw (.tick [])
      rw [Game.move, htick] at hnext
      obtain ⟨enough, hout⟩ := ih _ (hahead ▸ hless) hnext rfl
      exact ⟨enough, fun ones hones => .turn (htick _) hfault (hout ones hones)⟩
    | answered htick hfault hless =>
      have hnext := hg.move hload hw (.tick [some "1"])
      rw [Game.move, htick] at hnext
      obtain ⟨enough, hout⟩ := ih _ (hahead ▸ hless) hnext rfl
      refine ⟨enough + 1, fun ones hones => ?_⟩
      obtain ⟨more, rfl⟩ : ∃ more, ones = more + 1 := ⟨ones - 1, by omega⟩
      rw [exitLines_succ]
      exact .turn (htick _) hfault (hout more (by omega))

theorem tick_unanswerable {question : String}
    (hp : g.session.pending = some (.choose question [])) (lines : Lines) :
    (g.tick lines).outcome.game = g := by
  have htakes := g.tick_takes lines
  generalize g.tick lines = t at htakes
  cases htakes with
  | finished => rfl
  | @answered cue _ hcue =>
    obtain rfl : .choose question [] = cue := Option.some.inj (hp.symm.trans hcue)
    rw [reading_answer]
    cases lines.first? <;> rfl
  | queued _ hnone => simp [hp] at hnone
  | scripted _ hnone => simp [hp] at hnone
  | commanded hstate =>
    obtain ⟨-, hnone, -, -⟩ := Session.state_eq_awaitingInput.mp hstate
    simp [hp] at hnone

/-- If every question in the scenes has an option, there is a way out of a game in English, however
it has been played. A question without options stays open, whatever is said. -/
theorem way_out_if_answerable {traced : Bool} {o : Outcome}
    (h : ofDocument document .english traced = .ok o) (moves : List Move) :
    ((o.game.world.EachCue fun cue => cue.answerable = true) →
      ∃ enough, ∀ ones ≥ enough, (o.game.after moves).Finishes (exitLines ones)) ∧
    ∀ question, (o.game.after moves).session.pending = some (.choose question []) →
      ∀ turns : List Lines,
        (o.game.after moves).after (turns.map .tick) = o.game.after moves := by
  obtain ⟨w, hw, hgame⟩ := ofDocument_ok h
  have hload := (World.ofDocument_ok.mp hw).2
  refine ⟨fun hcues => ?_, fun question hp turns => ?_⟩
  · rw [hgame] at hcues
    have hg : (o.game.after moves).Passable document w :=
      after_keeps (fun _ m hg => hg.move hload hcues m) (ofDocument_passable h hw hcues) moves
    exact hg.way_out hload hcues
  · induction turns with
    | nil => rfl
    | cons lines turns ih =>
      have hsame := tick_unanswerable hp lines
      rw [List.map_cons, Game.after, List.foldl_cons, Game.move, hsame]
      exact ih

def wavering : List Move := [.tick [], .tick [], .tick [], .execute "quit"]

def deadEnd : Node := Sample.around "adventure" [] [
  Sample.around "entry" [("id", "1")] [Sample.mark "select" [("text", "Who are you?")]]]

def isStuck (g : Game) : Bool :=
  match g.session.pending with
  | some (.choose _ []) => true
  | _ => false

theorem isStuck_iff : g.isStuck = true ↔
    ∃ question, g.session.pending = some (.choose question []) := by
  unfold isStuck
  split
  · next question h => simp [h]
  · next h => simpa using h

theorem way_out_if_answerable_sample :
    (∃ o, ofDocument Sample.document .english false = .ok o ∧
      (o.game.after wavering).session.pending.isSome ∧
      (o.game.after wavering).session.queue.length = 1 ∧
      ∃ enough, ∀ ones ≥ enough, (o.game.after wavering).Finishes (exitLines ones)) ∧
    ∃ o, ofDocument deadEnd .english false = .ok o ∧
      (o.game.after [.tick []]).isStuck ∧ ∀ turns : List Lines,
        (o.game.after [.tick []]).after (turns.map .tick) = o.game.after [.tick []] := by
  constructor
  · have hrun : (ofDocument Sample.document .english false).toOption.any (fun o =>
        (o.game.after wavering).session.pending.isSome &&
          (o.game.after wavering).session.queue.length == 1 &&
          o.game.world.scenes.all fun row => row.2.cues.all Cue.answerable) = true := by
      decide +kernel
    obtain ⟨o, ho, hrun⟩ := opens_with hrun
    simp only [Bool.and_eq_true, beq_iff_eq, List.all_eq_true] at hrun
    exact ⟨o, ho, hrun.1.1, hrun.1.2, (way_out_if_answerable ho wavering).1 hrun.2⟩
  · have hrun : (ofDocument deadEnd .english false).toOption.any (fun o =>
        (o.game.after [.tick []]).isStuck) = true := by decide +kernel
    obtain ⟨o, ho, hstuck⟩ := opens_with hrun
    obtain ⟨question, hp⟩ := isStuck_iff.mp hstuck
    exact ⟨o, ho, hstuck, (way_out_if_answerable ho [.tick []]).2 question hp⟩

end Game

end Fabula

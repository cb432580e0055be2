import Fabula.Proofs.Faults
import Fabula.Proofs.WayOut

set_option autoImplicit false

namespace Fabula

structure Turn.Brings (t : Turn) (after : Game) (seen : List Event) (unread : List String) :
    Prop where
  game : t.outcome.game = after
  seen : t.outcome.seen = seen
  unread : t.unread = unread.map some
  fault : t.outcome.fault = none

namespace Game

theorem reply_quitCue (line : String) : quitCue.reply? line =
    if Text.trim line ∈ ["1", "yes"] then some (.act .finish)
    else if Text.trim line ∈ ["2", "no"] then some .pass else none := by
  simp only [quitCue, Cue.reply?, Cue.option?, List.mem_cons, List.not_mem_nil, or_false]
  rfl

def quitTalk (prompts : Nat) : List Event :=
  .shown "Are you sure?" :: .shown "1 - yes" :: .shown "2 - no" ::
    List.replicate prompts (.asked "> ")

section

variable {w : World} {g : Game} {others lines : List String} {answer : String}
  {rest : Option String → Game} {r : Recital}

theorem Idle.renders_until_answered (hg : g.Idle w) {cue follow : Cue}
    (hothers : ∀ line ∈ others, cue.reply? line = none) (hanswer : cue.reply? answer = some follow)
    (hr : Completes rest (follow.play g) lines r) :
    Renders rest (g.suspended cue) (others ++ answer :: lines)
      (r.after (List.replicate (others.length + 1) (.asked "> "))) := by
  induction others with
  | nil => exact hg.renders_answered hanswer hr
  | cons line others ih =>
    rw [List.forall_mem_cons] at hothers
    exact hg.renders_unanswered hothers.1 (ih hothers.2)

theorem Idle.renders_quit (hg : g.Idle w) {follow : Cue}
    (hothers : ∀ line ∈ others, quitCue.reply? line = none)
    (hanswer : quitCue.reply? answer = some follow)
    (hr : Completes rest (follow.play g) lines r) :
    Renders rest (g.changeSession (·.push quitCue)) (others ++ answer :: lines)
      (r.after (quitTalk (others.length + 1))) := by
  obtain ⟨hstate, htick⟩ := hg.tick_queued quitCue ((others ++ answer :: lines).map some)
  have hplay := hg.play_choose "Are you sure?" [("yes", .act .finish), ("no", .pass)]
  have hseen : (quitCue.play g).seen =
      [.shown "Are you sure?", .shown "1 - yes", .shown "2 - no"] := by
    rw [quitCue, hplay]
    cases g.traced <;> rfl
  have hlater := hg.renders_until_answered hothers hanswer hr
  have hquestion := Renders.turn hstate htick (by rw [quitCue, hplay])
    (by rw [quitCue, hplay]; exact hlater)
  rw [hseen] at hquestion
  exact hquestion

end

section

variable {g : Game} (henglish : g.catalogue = .english)

include henglish

theorem completes_finish (lines : List String) :
    Completes (fun area => (g.placed area).ended) ((Cue.act .finish).play g) lines
      ⟨g.session.area, [.shown "Quitting..."], lines, false⟩ := by
  obtain ⟨hover, hsmooth⟩ := play_finish henglish
  refine ⟨hsmooth, ⟨g.session.area, [], lines, false⟩, ?_, ?_⟩
  · rw [hover]
    exact .rested g.session.area lines
  · rw [play_finish_seen henglish]
    rfl

variable (hstate : g.session.state = .awaitingInput)

include hstate

theorem idle_of_awaiting : g.Idle g.world := by
  obtain ⟨hf, hp, hq, -⟩ := Session.state_eq_awaitingInput.mp hstate
  exact ⟨rfl, henglish, hf, hp, hq⟩

theorem quit_brings {text : String} (hverb : (Line.ofText text).verb = "quit")
    {others lines : List String} {answer : String} {follow : Cue}
    (hothers : ∀ line ∈ others, quitCue.reply? line = none)
    (hanswer : quitCue.reply? answer = some follow) {rest : Option String → Game} {seen : List Event}
    (hrest : ∀ area, (rest area).AtRest ∧ (rest area).session.area = area)
    (hr : Completes rest (follow.play g) lines ⟨g.session.area, seen, lines, false⟩) :
    ∃ turns, ∀ fuel ≥ turns,
      ((g.tick ((text :: (others ++ answer :: lines)).map some)).andThen (openFor fuel)).Brings
        (rest g.session.area) (.asked "> " :: quitTalk (others.length + 1) ++ seen) lines := by
  obtain ⟨hgame, hsilent, hfault⟩ := quit_answer henglish hverb
  have hrenders := (idle_of_awaiting henglish hstate).renders_quit hothers hanswer hr
  obtain ⟨turns, hturns⟩ := hrenders.leaves_at_rest hrest
  refine ⟨turns, fun fuel hfuel => ?_⟩
  obtain ⟨hleaves, hend⟩ := hturns fuel hfuel
  have hprompt : g.catalogue.prompt = "> " := by
    rw [henglish]
    rfl
  rw [List.map_cons, tick_text hstate, hprompt, hgame, hfault]
  refine ⟨hend rfl, ?_, hleaves.unread, hleaves.fault⟩
  have hfirst : Outcome.seen ⟨g.changeSession (·.push quitCue),
      .asked "> " :: (g.execute text).outcome.events, none⟩ = [.asked "> "] := by
    rw [Outcome.seen, List.filter_cons_of_pos rfl]
    exact congrArg (Event.asked "> " :: ·) hsilent
  rw [Turn.andThen_seen rfl, hfirst, hleaves.seen]
  rfl

end

variable {document : Node} {traced : Bool} {o : Outcome}

/-- However a game in English has been played, a player who wants to quit is asked about it with
each line, until one is an answer. A `no` leaves the game as it was in all respects. After a `yes`
there is nothing but the farewell, and no further turn reads a line, shows or changes anything. -/
theorem quit_cancelled_or_final (h : ofDocument document .english traced = .ok o)
    (moves : List Move) (hstate : (o.game.after moves).session.state = .awaitingInput)
    {text : String} (hverb : (Line.ofText text).verb = "quit") {others : List String}
    (hothers : ∀ line ∈ others, Text.trim line ∉ ["1", "2", "yes", "no"]) (answer : String)
    (rest : List String) :
    let g := o.game.after moves
    let lines : Lines := (text :: (others ++ answer :: rest)).map some
    (Text.trim answer ∈ ["2", "no"] → ∃ turns, ∀ fuel ≥ turns,
      ((g.tick lines).andThen (openFor fuel)).Brings g
        (.asked "> " :: quitTalk (others.length + 1)) rest) ∧
    (Text.trim answer ∈ ["1", "yes"] →
      (∃ turns, ∀ fuel ≥ turns, ((g.tick lines).andThen (openFor fuel)).Brings g.ended
        (.asked "> " :: quitTalk (others.length + 1) ++ [.shown "Quitting..."]) rest) ∧
      ∀ later, g.ended.tick later = ⟨.done g.ended, later, false⟩) := by
  intro g lines
  obtain ⟨w, hw, -⟩ := ofDocument_ok h
  have henglish : g.catalogue = .english :=
    ((ofDocument_spoken h hw).after (World.ofDocument_ok.mp hw).2 moves).english
  have hidle := idle_of_awaiting henglish hstate
  have hunanswered : ∀ line ∈ others, quitCue.reply? line = none := by
    intro line hline
    have hother := hothers line hline
    simp only [List.mem_cons, List.not_mem_nil, or_false, not_or] at hother
    simp [reply_quitCue, hother]
  refine ⟨fun hno => ?_, fun hyes => ⟨?_, fun later => tick_finished rfl later⟩⟩
  · have hanswer : quitCue.reply? answer = some .pass := by
      rw [reply_quitCue, if_pos hno, if_neg]
      simp only [List.mem_cons, List.not_mem_nil, or_false] at hno
      rcases hno with hno | hno <;> simp [hno]
    have hrest (area : Option String) :
        (g.placed area).AtRest ∧ (g.placed area).session.area = area :=
      ⟨.inl hstate, rfl⟩
    have hback := quit_brings henglish hstate hverb hunanswered hanswer hrest
      (Cue.recites_pass g.world g hidle rest)
    rw [List.append_nil] at hback
    exact hback
  · have hanswer : quitCue.reply? answer = some (.act .finish) := by
      rw [reply_quitCue, if_pos hyes]
    exact quit_brings henglish hstate hverb hunanswered hanswer (fun area => ⟨.inr rfl, rfl⟩)
      (completes_finish henglish rest)

theorem quit_cancelled_or_final_sample : ∃ o, ofDocument Sample.document .english false = .ok o ∧
    let g := o.game.after arrival
    (∃ turns, ∀ fuel ≥ turns, ((g.tick ((["quit", "perhaps", "", " 2 ", "look"] :
        List String).map some)).andThen (openFor fuel)).Brings g
      (.asked "> " :: quitTalk 3) ["look"]) ∧
    ∃ turns, ∀ fuel ≥ turns, ((g.tick ((["Quit now", "Yes", "yes", "look"] :
        List String).map some)).andThen (openFor fuel)).Brings g.ended
      (.asked "> " :: quitTalk 2 ++ [.shown "Quitting..."]) ["look"] := by
  have hrun : (ofDocument Sample.document .english false).toOption.any (fun o =>
      (o.game.after arrival).session.state == .awaitingInput) = true := by decide +kernel
  obtain ⟨o, ho, hstate⟩ := opens_with hrun
  rw [beq_iff_eq] at hstate
  have hquit : (Line.ofText "quit").verb = "quit" := by decide +kernel
  have hquit' : (Line.ofText "Quit now").verb = "quit" := by decide +kernel
  have hothers : ∀ line ∈ ["perhaps", ""], Text.trim line ∉ ["1", "2", "yes", "no"] := by
    decide +kernel
  have hothers' : ∀ line ∈ ["Yes"], Text.trim line ∉ ["1", "2", "yes", "no"] := by decide +kernel
  refine ⟨o, ho, ?_, ?_⟩
  · exact (quit_cancelled_or_final ho arrival hstate hquit hothers " 2 " ["look"]).1
      (by decide +kernel)
  · exact ((quit_cancelled_or_final ho arrival hstate hquit' hothers' "yes" ["look"]).2
      (by decide +kernel)).1

end Game

end Fabula

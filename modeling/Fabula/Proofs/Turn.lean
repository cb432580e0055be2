import Fabula.Play.Turn

set_option autoImplicit false

namespace Fabula

theorem Session.state_eq_awaitingInput {s : Session} : s.state = .awaitingInput ↔
    s.finished = false ∧ s.pending = none ∧ s.queue = [] ∧ s.remaining = [] := by
  unfold state
  cases s.finished <;> cases s.pending <;> cases s.queue <;> cases s.remaining <;> simp

section

variable {s : Session} {cue : Cue}

theorem Session.state_finished (hf : s.finished = true) : s.state = .finished := by
  simp [state, hf]

theorem Session.state_suspended (hf : s.finished = false) (hp : s.pending = some cue) :
    s.state = .suspended := by
  simp [state, hf, hp]

theorem Session.state_runningQueue {queue : List Cue} (hf : s.finished = false)
    (hp : s.pending = none) (hq : s.queue = cue :: queue) : s.state = .runningQueue := by
  simp [state, hf, hp, hq]

theorem Session.state_runningScript {cues : List Cue} (hf : s.finished = false)
    (hp : s.pending = none) (hq : s.queue = []) (hr : s.remaining = cue :: cues) :
    s.state = .runningScript := by
  simp [state, hf, hp, hq, hr]

end

theorem Session.remaining_next {s : Session} {cue : Cue} {cues : List Cue}
    (h : s.remaining = cue :: cues) : { s with cursor := s.cursor + 1 }.remaining = cues := by
  unfold remaining at h ⊢
  cases hs : s.scene with
  | none => simp [hs] at h
  | some scene =>
    simp only [hs] at h
    change scene.cues.drop (s.cursor + 1) = cues
    rw [List.drop_add_one_eq_tail_drop, h, List.tail_cons]

def Lines.first? (lines : Lines) : Option String := lines.head?.join

def Lines.fault? : Lines → Option Fault
  | [] => some .endOfInput
  | none :: _ => some .interrupted
  | some _ :: _ => none

namespace Game

section

variable {g : Game} {cue : Cue}

theorem tick_finished (hf : g.session.finished = true) (lines : Lines) :
    g.tick lines = ⟨.done g, lines, false⟩ := by
  rw [tick, if_pos hf]

theorem tick_pending (hf : g.session.finished = false) (hp : g.session.pending = some cue)
    (lines : Lines) : g.tick lines = g.reading lines (answer cue) := by
  simp [tick, hf, hp]

theorem tick_queued {queue : List Cue} (hf : g.session.finished = false)
    (hp : g.session.pending = none) (hq : g.session.queue = cue :: queue) (lines : Lines) :
    g.tick lines = ⟨cue.play (g.changeSession fun s => { s with queue }), lines, true⟩ := by
  simp [tick, hf, hp, hq]

theorem tick_scripted {cues : List Cue} (hf : g.session.finished = false)
    (hp : g.session.pending = none) (hq : g.session.queue = [])
    (hr : g.session.remaining = cue :: cues) (lines : Lines) : g.tick lines =
      ⟨cue.play (g.changeSession fun s => { s with cursor := s.cursor + 1 }), lines, true⟩ := by
  simp [tick, hf, hp, hq, hr]

theorem tick_awaiting (h : g.session.state = .awaitingInput) (lines : Lines) :
    g.tick lines = g.reading lines fun g line => (g.execute line).outcome := by
  obtain ⟨hf, hp, hq, hr⟩ := Session.state_eq_awaitingInput.mp h
  simp [tick, hf, hp, hq, hr]

theorem tick_text (hstate : g.session.state = .awaitingInput) (text : String) (rest : Lines) :
    g.tick (some text :: rest) = ⟨⟨(g.execute text).outcome.game,
      .asked g.catalogue.prompt :: (g.execute text).outcome.events,
      (g.execute text).outcome.fault⟩, rest, true⟩ := by
  rw [tick_awaiting hstate]
  rfl

end

/-- The turn that a game takes, in each state of the engine. -/
inductive Takes (g : Game) (lines : Lines) : Turn → Prop where
  | finished : g.session.finished = true → Takes g lines ⟨.done g, lines, false⟩
  | answered {cue : Cue} : g.session.finished = false → g.session.pending = some cue →
      Takes g lines (g.reading lines (answer cue))
  | queued {cue : Cue} {queue : List Cue} : g.session.finished = false →
      g.session.pending = none → g.session.queue = cue :: queue →
      Takes g lines ⟨cue.play (g.changeSession fun s => { s with queue }), lines, true⟩
  | scripted {cue : Cue} {cues : List Cue} : g.session.finished = false →
      g.session.pending = none → g.session.queue = [] → g.session.remaining = cue :: cues →
      Takes g lines ⟨cue.play (g.changeSession fun s => { s with cursor := s.cursor + 1 }), lines,
        true⟩
  | commanded : g.session.state = .awaitingInput →
      Takes g lines (g.reading lines fun g line => (g.execute line).outcome)

theorem tick_takes (g : Game) (lines : Lines) : g.Takes lines (g.tick lines) := by
  cases hf : g.session.finished with
  | true =>
    rw [tick_finished hf]
    exact .finished hf
  | false =>
    cases hp : g.session.pending with
    | some cue =>
      rw [tick_pending hf hp]
      exact .answered hf hp
    | none =>
      cases hq : g.session.queue with
      | cons cue queue =>
        rw [tick_queued hf hp hq]
        exact .queued hf hp hq
      | nil =>
        cases hr : g.session.remaining with
        | cons cue cues =>
          rw [tick_scripted hf hp hq hr]
          exact .scripted hf hp hq hr
        | nil =>
          have hstate := Session.state_eq_awaitingInput.mpr ⟨hf, hp, hq, hr⟩
          rw [tick_awaiting hstate]
          exact .commanded hstate

inductive Reads (g : Game) (step : Game → String → Outcome) : Lines → Turn → Prop where
  | ended : Reads g step [] ⟨⟨g, [.asked g.catalogue.prompt], some .endOfInput⟩, [], true⟩
  | interrupted {rest : Lines} : Reads g step (none :: rest)
      ⟨⟨g, [.asked g.catalogue.prompt], some .interrupted⟩, rest, true⟩
  | line {text : String} {rest : Lines} : Reads g step (some text :: rest)
      ⟨⟨(step g text).game, .asked g.catalogue.prompt :: (step g text).events,
        (step g text).fault⟩, rest, true⟩

theorem reading_unread (g : Game) (lines : Lines) (step : Game → String → Outcome) :
    (g.reading lines step).unread = lines.tail := by
  cases lines with
  | nil => rfl
  | cons line rest => cases line <;> rfl

theorem reading_alive (g : Game) (lines : Lines) (step : Game → String → Outcome) :
    (g.reading lines step).alive = true := by
  cases lines with
  | nil => rfl
  | cons line rest => cases line <;> rfl

/-- A session goes on until it finds itself finished. -/
theorem tick_alive (g : Game) (lines : Lines) : (g.tick lines).alive = !g.session.finished := by
  have htakes := g.tick_takes lines
  generalize g.tick lines = t at htakes
  cases htakes with
  | finished hf => simp [hf]
  | answered hf hp => simp [hf, reading_alive]
  | queued hf => simp [hf]
  | scripted hf => simp [hf]
  | commanded hstate => simp [(Session.state_eq_awaitingInput.mp hstate).1, reading_alive]

theorem reading_reads (g : Game) (lines : Lines) (step : Game → String → Outcome) :
    g.Reads step lines (g.reading lines step) := by
  cases lines with
  | nil => exact .ended
  | cons line rest =>
    cases line with
    | none => exact .interrupted
    | some text => exact .line

theorem reading_answer (g : Game) (cue : Cue) (lines : Lines) :
    g.reading lines (answer cue) =
      ⟨⟨match lines.first?.bind cue.reply? with
          | none => g
          | some follow => g.changeSession fun s =>
              { s with pending := none, queue := s.queue ++ [follow] },
        [.asked g.catalogue.prompt], lines.fault?⟩, lines.tail, true⟩ := by
  have hreads := g.reading_reads lines (answer cue)
  generalize g.reading lines (answer cue) = t at hreads
  cases hreads with
  | ended => rfl
  | interrupted => rfl
  | @line text rest =>
    have hfirst : Lines.first? (some text :: rest) = some text := rfl
    rw [hfirst, Option.bind_some]
    unfold answer
    cases cue.reply? text <;> rfl

end Game

end Fabula

import Fabula.Proofs.Agenda
import Fabula.Proofs.Integrity

/-!
The shape of a session in play: one thing is waited for at a time, and no cue leads the player away
while there is a direction to go back against.
-/

set_option autoImplicit false

namespace Fabula

def Move.isPlayed : Move → Bool
  | .tick _ | .reset => true
  | .execute _ => false

def Cue.entered? : Cue → Option String
  | .enter area => some area
  | .narrate _ | .pass | .act _ | .choose .. => none

theorem Cue.entered?_eq_some {cue : Cue} {area : String} :
    cue.entered? = some area ↔ cue = .enter area := by
  cases cue <;> simp [entered?]

namespace Session

/-- The cue that is played at the next turn, if one is. -/
def due? (s : Session) : Option Cue :=
  match s.state with
  | .runningQueue => s.queue.head?
  | .runningScript => s.remaining.head?
  | .awaitingInput | .suspended | .finished => none

structure Shaped (s : Session) : Prop where
  queue : s.queue.length ≤ 1
  pending : ∀ cue, s.pending = some cue →
    s.queue = [] ∧ ∃ question options, cue = .choose question options
  finished : s.finished = true → s.queue = [] ∧ s.pending = none
  scripted : s.remaining ≠ [] → s.heading = none
  entering : ∀ area, s.due? = some (.enter area) → s.heading = none

/-- A shape that every turn keeps. Where a direction is remembered the scene is over, and what is
queued or pending is about quitting: it enters no area. -/
structure Poised (s : Session) : Prop where
  queue : s.queue.length ≤ 1
  pending : ∀ cue, s.pending = some cue →
    s.queue = [] ∧ ∃ question options, cue = .choose question options
  finished : s.finished = true → s.queue = [] ∧ s.pending = none
  away : s.heading.isSome → s.remaining = [] ∧ (∀ cue ∈ s.queue, cue.targets = []) ∧
    ∀ cue, s.pending = some cue → cue.targets = []

theorem due?_enter {s : Session} {area : String} (h : s.due? = some (.enter area)) :
    .enter area ∈ s.queue ∨ s.remaining ≠ [] := by
  unfold due? at h
  split at h
  · exact .inl (List.mem_of_head? h)
  · exact .inr (List.ne_nil_of_mem (List.mem_of_head? h))
  · cases h
  · cases h
  · cases h

theorem Poised.shaped {s : Session} (hs : s.Poised) : s.Shaped where
  queue := hs.queue
  pending := hs.pending
  finished := hs.finished
  scripted hr := Option.eq_none_iff_forall_ne_some.mpr fun direction hd =>
    hr (hs.away (by simp [hd])).1
  entering area hdue := by
    refine Option.eq_none_iff_forall_ne_some.mpr fun direction hd => ?_
    obtain ⟨hover, hqueue, -⟩ := hs.away (by simp [hd])
    rcases due?_enter hdue with hq | hr
    · simpa [Cue.targets] using hqueue _ hq
    · exact hr hover

theorem Poised.start (scene : Option Scene) : (start scene).Poised :=
  ⟨Nat.zero_le 1, by simp [Session.start], by simp [Session.start], by simp [Session.start]⟩

structure Clear (s : Session) : Prop where
  finished : s.finished = false
  pending : s.pending = none
  queue : s.queue = []

theorem Clear.poised {s : Session} (hs : s.Clear) (hover : s.heading.isSome → s.remaining = []) :
    s.Poised :=
  ⟨by simp [hs.queue], by simp [hs.pending], by simp [hs.finished],
    fun h => ⟨hover h, by simp [hs.queue], by simp [hs.pending]⟩⟩

end Session

namespace Game

section

variable {g : Game} {cue : Cue}

theorem due?_queued {queue : List Cue} (hf : g.session.finished = false)
    (hp : g.session.pending = none) (hq : g.session.queue = cue :: queue) :
    g.session.due? = some cue := by
  rw [Session.due?, Session.state_runningQueue hf hp hq, hq]
  rfl

theorem due?_scripted {cues : List Cue} (hf : g.session.finished = false)
    (hp : g.session.pending = none) (hq : g.session.queue = [])
    (hr : g.session.remaining = cue :: cues) : g.session.due? = some cue := by
  rw [Session.due?, Session.state_runningScript hf hp hq hr, hr]
  rfl

theorem tick_due (h : g.session.due? = some cue) (lines : Lines) : ∃ queue cursor,
    g.tick lines = ⟨cue.play (g.changeSession fun s => { s with queue, cursor }), lines, true⟩ := by
  have htakes := g.tick_takes lines
  generalize g.tick lines = t at htakes
  cases htakes with
  | finished hf => simp [Session.due?, Session.state_finished hf] at h
  | answered hf hp => simp [Session.due?, Session.state_suspended hf hp] at h
  | @queued first queue hf hp hq =>
    obtain rfl := Option.some.inj ((due?_queued hf hp hq).symm.trans h)
    exact ⟨queue, g.session.cursor, rfl⟩
  | @scripted first cues hf hp hq hr =>
    obtain rfl := Option.some.inj ((due?_scripted hf hp hq hr).symm.trans h)
    exact ⟨g.session.queue, g.session.cursor + 1, rfl⟩
  | commanded hstate => simp [Session.due?, hstate] at h

end

theorem played_poised {g after : Game} {cue : Cue} (hp : Cue.Played g cue after)
    (hg : g.session.Clear) (hcue : ∀ action ∈ cue.actions, action = .finish)
    (haway : g.session.heading.isSome → g.session.remaining = [] ∧ cue.targets = []) :
    after.session.Poised := by
  have hover := fun h => (haway h).1
  cases hp with
  | nothing => exact hg.poised hover
  | enter => exact Session.Clear.poised ⟨hg.finished, hg.pending, hg.queue⟩ hover
  | finish =>
    have hqueue := hg.queue
    have hpending := hg.pending
    exact ⟨by simp [changeSession, hqueue], by simp [changeSession, hpending],
      fun _ => ⟨hqueue, hpending⟩,
      fun h => ⟨hover h, by simp [changeSession, hqueue], by simp [changeSession, hpending]⟩⟩
  | suspend hwaits =>
    have hqueue := hg.queue
    have hchoice : ∃ question options, cue = .choose question options := by
      cases cue with
      | choose question options => exact ⟨question, options, rfl⟩
      | act action =>
        rw [hcue action (by simp [Cue.actions])] at hwaits
        cases hwaits
      | _ => cases hwaits
    refine ⟨by simp [changeSession, hqueue], fun c hc => ?_, fun hf => ?_, fun h => ?_⟩
    · obtain rfl := Option.some.inj hc
      exact ⟨hqueue, hchoice⟩
    · exact absurd (hg.finished.symm.trans hf) Bool.false_ne_true
    · refine ⟨hover h, by simp [changeSession, hqueue], fun c hc => ?_⟩
      obtain rfl := Option.some.inj hc
      exact (haway h).2

/-- A line of the player is heard in a clear session whose scene is over. -/
theorem Effect.poised {g after : Game} {l : Line} (he : g.Effect l after)
    (hstate : g.session.state = .awaitingInput) (hreset : g.reset.game.session.Poised) :
    after.session.Poised := by
  obtain ⟨hf, hp, hq, hr⟩ := Session.state_eq_awaitingInput.mp hstate
  have hleaves := he.leaves
  generalize after.session = left at hleaves
  cases hleaves with
  | restart => exact hreset
  | @quit question _ hquestion =>
    obtain ⟨asked, yes, no, rfl⟩ := quitQuestion_eq hquestion
    refine ⟨by simp [Session.push, hq], by simp [Session.push, hp], by simp [Session.push, hf],
      fun _ => ⟨hr, ?_, by simp [Session.push, hp]⟩⟩
    simp [Session.push, hq, Cue.targets, Cue.optionTargets]
  | moved => exact Session.Clear.poised ⟨hf, hp, hq⟩ fun _ => hr

theorem answer_poised {g : Game} {cue : Cue} (hg : g.session.Poised)
    (hf : g.session.finished = false) (hp : g.session.pending = some cue) (line : String) :
    (answer cue g line).game.session.Poised := by
  unfold answer
  cases hr : cue.reply? line with
  | none => exact hg
  | some follow =>
    have hqueue := (hg.pending cue hp).1
    refine ⟨by simp [changeSession, Session.push, Outcome.done, hqueue],
      by simp [changeSession, Session.push, Outcome.done],
      fun hover => absurd (hf.symm.trans hover) Bool.false_ne_true, fun h => ?_⟩
    obtain ⟨hover, -, hpending⟩ := hg.away h
    refine ⟨hover, fun c hc => ?_, by simp [changeSession, Session.push, Outcome.done]⟩
    simp only [Outcome.done, changeSession, Session.push, hqueue, List.nil_append,
      List.mem_singleton] at hc
    rw [hc, List.eq_nil_iff_forall_not_mem]
    intro area harea
    have htarget := Cue.targets_of_reply? hr harea
    simp [hpending cue hp] at htarget

theorem tick_poised {g : Game} (hg : g.session.Poised) (hreset : g.reset.game.session.Poised)
    (hcues : ∀ cue ∈ g.session.agenda, ∀ action ∈ cue.actions, action = .finish) (lines : Lines) :
    (g.tick lines).outcome.game.session.Poised := by
  have htakes := g.tick_takes lines
  generalize g.tick lines = t at htakes
  cases htakes with
  | finished => exact hg
  | @answered cue hf hp =>
    have hreads := g.reading_reads lines (answer cue)
    generalize g.reading lines (answer cue) = t at hreads
    cases hreads with
    | ended => exact hg
    | interrupted => exact hg
    | @line text => exact answer_poised hg hf hp text
  | @queued cue queue hf hp hq =>
    have hone := hg.queue
    rw [hq, List.length_cons] at hone
    have hempty : queue = [] := List.eq_nil_of_length_eq_zero (by omega)
    refine played_poised (cue.play_played _) ⟨hf, hp, hempty⟩
      (hcues cue (by simp [Session.agenda, hq])) fun h => ?_
    obtain ⟨hover, hqueue, -⟩ := hg.away h
    exact ⟨hover, hqueue cue (by simp [hq])⟩
  | @scripted cue cues hf hp hq hr =>
    refine played_poised (cue.play_played _) ⟨hf, hp, hq⟩
      (hcues cue (g.session.remaining_subset (by simp [hr]))) fun h => ?_
    have hover := (hg.away h).1
    rw [hr] at hover
    cases hover
  | commanded hstate =>
    have hreads := g.reading_reads lines fun g line => (g.execute line).outcome
    generalize g.reading lines (fun g line => (g.execute line).outcome) = t at hreads
    cases hreads with
    | ended => exact hg
    | interrupted => exact hg
    | @line text => exact (g.execute_effect text).poised hstate hreset

structure Composed (w : World) (g : Game) : Prop where
  load : World.load g.document.worldRoot = .ok w
  cues : ∀ cue ∈ g.session.agenda, ∀ action ∈ cue.actions, action = .finish
  poised : g.session.Poised

theorem Composed.move {w : World} {g : Game} (hg : g.Composed w) {m : Move}
    (hm : m.isPlayed = true) : (g.move m).Composed w := by
  have hreset : g.reset.game.session.Poised := by
    rw [reset_game hg.load]
    exact .start _
  refine ⟨by rw [(g.move_sameStory m).document]; exact hg.load, ?_, ?_⟩
  · exact move_agenda hg.load Cue.finishes_lasting.toInherited
      (Cue.finishes_lasting.loaded hg.load) hg.cues m
  · cases m with
    | tick lines => exact tick_poised hg.poised hreset hg.cues lines
    | reset => exact hreset
    | execute text => cases hm

theorem Composed.after {w : World} {g : Game} (hg : g.Composed w) {moves : List Move}
    (hm : ∀ m ∈ moves, m.isPlayed = true) : (g.after moves).Composed w := by
  induction moves generalizing g with
  | nil => exact hg
  | cons m moves ih =>
    rw [List.forall_mem_cons] at hm
    exact ih (hg.move hm.1) hm.2

theorem ofDocument_composed {document : Node} {catalogue : Catalogue} {traced : Bool} {o : Outcome}
    (h : ofDocument document catalogue traced = .ok o) : ∃ w, o.game.Composed w := by
  obtain ⟨w, hw, hgame⟩ := ofDocument_ok h
  have hload := (World.ofDocument_ok.mp hw).2
  refine ⟨w, by rw [hgame]; exact hload, ofDocument_agenda h ?_, by rw [hgame]; exact .start _⟩
  rw [hgame]
  exact Cue.finishes_lasting.loaded hload

/-- Play keeps a session in shape: no more than one cue is queued; a pending one is a question, with
nothing queued; nothing is left when the session is over; and no direction is remembered while the
scene goes on, or where a cue leads the player into an area, neither before nor after it. -/
theorem play_keeps_shape {document : Node} {catalogue : Catalogue} {traced : Bool} {o : Outcome}
    (h : ofDocument document catalogue traced = .ok o) {moves : List Move}
    (hm : ∀ m ∈ moves, m.isPlayed = true) : (o.game.after moves).session.Shaped ∧
    ∀ area lines, (o.game.after moves).session.due? = some (.enter area) →
      ((o.game.after moves).tick lines).outcome.game.session.heading = none := by
  obtain ⟨w, hg⟩ := ofDocument_composed h
  have hshaped := (hg.after hm).poised.shaped
  refine ⟨hshaped, fun area lines hdue => ?_⟩
  obtain ⟨queue, cursor, htick⟩ := tick_due hdue lines
  rw [htick]
  exact hshaped.entering area hdue

def round : List Move := arrival ++ [.tick [some "go north"], .tick [some "restart"]] ++
  arrival.take 5

theorem play_keeps_shape_sample :
    ∃ o, ofDocument Sample.document .english false = .ok o ∧
    (o.game.after (arrival ++ [.tick [some "go north"]])).session.heading = some "north" ∧
    (o.game.after round).session.due? = some (.enter "yard") ∧
    (o.game.after round).session.heading = none ∧
    ((o.game.after round).tick []).outcome.game.session.heading = none := by
  have hrun : (ofDocument Sample.document .english false).toOption.any (fun o =>
      (o.game.after (arrival ++ [.tick [some "go north"]])).session.heading == some "north" &&
        (o.game.after round).session.due?.bind Cue.entered? == some "yard") = true := by
    decide +kernel
  obtain ⟨o, ho, hrun⟩ := opens_with hrun
  simp only [Bool.and_eq_true, beq_iff_eq, Option.bind_eq_some_iff] at hrun
  have hdue : (o.game.after round).session.due? = some (.enter "yard") := by
    obtain ⟨cue, hcue, henters⟩ := hrun.2
    rw [hcue, Cue.entered?_eq_some.mp henters]
  have hplayed : ∀ m ∈ round, m.isPlayed = true := by decide
  obtain ⟨hshaped, hentered⟩ := play_keeps_shape ho hplayed
  exact ⟨o, ho, hrun.1, hdue, hshaped.entering "yard" hdue, hentered "yard" [] hdue⟩

end Game

end Fabula

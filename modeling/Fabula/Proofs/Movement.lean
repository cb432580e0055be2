import Fabula.Proofs.Faults
import Fabula.Proofs.Shape

set_option autoImplicit false

namespace Fabula

/-- The first exit of an area in a direction, in any case. It hides the later ones. -/
def Area.Leads (a : Area) (direction : String) (e : Exit) : Prop :=
  Text.caseFold e.direction = Text.caseFold direction ∧ ∃ before later,
    a.exits = before ++ e :: later ∧
      ∀ other ∈ before, Text.caseFold other.direction ≠ Text.caseFold direction

theorem Area.exit?_eq_some {a : Area} {direction : String} {e : Exit} :
    a.exit? direction = some e ↔ a.Leads direction e := by
  rw [exit?, List.find?_eq_some_iff_append]
  simp [Leads, Text.sameFolded]

def Line.turnsBack (l : Line) : Bool := l.verb == "go" && Text.caseFold l.argument == "back"

namespace Game

/-- The direction that a line asks for: as it stands, or for `back` against the one remembered. -/
inductive Asks (g : Game) (l : Line) : String → Prop where
  | onward : Text.caseFold l.argument ≠ "back" → Asks g l l.argument
  | back {last direction : String} : Text.caseFold l.argument = "back" →
      g.session.heading = some last → opposite? last = some direction → Asks g l direction

structure Way (g : Game) (l : Line) (e : Exit) : Prop where
  verb : l.verb = "go"
  asked : l.args ≠ []
  leads : ∃ area direction, g.area? = some area ∧ g.Asks l direction ∧ area.Leads direction e

def way? (g : Game) (l : Line) : Option Exit :=
  if l.verb = "go" ∧ l.args ≠ [] then do
    let area ← g.area?
    let direction ← g.direction? l.argument
    area.exit? direction
  else none

theorem direction?_eq_some {g : Game} {l : Line} {direction : String} :
    g.direction? l.argument = some direction ↔ g.Asks l direction := by
  by_cases hback : Text.caseFold l.argument = "back"
  · rw [direction?, if_pos hback, Option.bind_eq_some_iff]
    constructor
    · rintro ⟨last, hlast, hdirection⟩
      exact .back hback hlast hdirection
    · intro hasks
      cases hasks with
      | onward honward => exact absurd hback honward
      | back _ hlast hdirection => exact ⟨_, hlast, hdirection⟩
  · rw [direction?, if_neg hback, Option.some.injEq]
    constructor
    · rintro rfl
      exact .onward hback
    · intro hasks
      cases hasks with
      | onward => rfl
      | back hturn => exact absurd hturn hback

theorem way?_eq_some {g : Game} {l : Line} {e : Exit} : g.way? l = some e ↔ g.Way l e := by
  unfold way?
  constructor
  · intro h
    split at h
    · next hgo =>
      obtain ⟨area, harea, h⟩ := Option.bind_eq_some_iff.mp h
      obtain ⟨direction, hdirection, hexit⟩ := Option.bind_eq_some_iff.mp h
      exact ⟨hgo.1, hgo.2, area, direction, harea, direction?_eq_some.mp hdirection,
        Area.exit?_eq_some.mp hexit⟩
    · cases h
  · rintro ⟨hverb, hargs, area, direction, harea, hasks, hleads⟩
    rw [if_pos ⟨hverb, hargs⟩]
    simp [harea, direction?_eq_some.mpr hasks, Area.exit?_eq_some.mpr hleads]

theorem Way.unique {g : Game} {l : Line} {e e' : Exit} (h : g.Way l e) (h' : g.Way l e') :
    e = e' :=
  Option.some.inj ((way?_eq_some.mpr h).symm.trans (way?_eq_some.mpr h'))

/-- The exit that a line goes through: one that is asked for, and open. -/
def passage? (g : Game) (l : Line) : Option Exit := (g.way? l).filter (·.isOpen)

theorem passage?_eq_some {g : Game} {l : Line} {e : Exit} :
    g.passage? l = some e ↔ g.Way l e ∧ e.isOpen = true := by
  rw [passage?, Option.filter_eq_some_iff, way?_eq_some]

def gone (g : Game) (l : Line) : Game :=
  let there := (g.passage? l).elim g g.walked
  if l.turnsBack then there.withoutHeading else there

theorem performAll_smooth_cons {d : Deed} (hd : d.IsSmooth = true) {g : Game}
    (henglish : g.catalogue = .english) (ds : List Deed) :
    (performAll (d :: ds) g).game = (performAll ds (d.perform g).game).game := by
  rw [performAll_cons, Outcome.next_game, Deed.perform_smooth hd henglish]
  rfl

theorem performAll_forget (g : Game) (back : Prop) [Decidable back] :
    (performAll (if back then [.forgetHeading] else []) g).game =
      if back then g.withoutHeading else g := by
  split <;> rfl

theorem go_eq {g : Game} {l : Line} (hverb : l.verb = "go") (hargs : l.args ≠ []) : g.go l.args =
    (match g.way? l with
      | none => [.say "cannot_move"]
      | some e =>
        if e.isOpen then
          [.fill "moved" [("direction", .text e.direction)], .walk e.direction e.target,
            .note (.line .walked ("location " ++ e.target))]
        else [.fill "blocked" [("type", .text e.kind), ("direction", .text e.direction)]]) ++
      if Text.caseFold l.argument = "back" then [.forgetHeading] else [] := by
  rw [way?, if_pos ⟨hverb, hargs⟩]
  rfl

theorem go_game {g : Game} {l : Line} (henglish : g.catalogue = .english) (hverb : l.verb = "go")
    (hargs : l.args ≠ []) : (performAll (g.go l.args) g).game = g.gone l := by
  have hsmooth := g.go_smooth l.args
  have hback : (l.turnsBack = true) = (Text.caseFold l.argument = "back") := by
    simp [Line.turnsBack, hverb]
  rw [go_eq hverb hargs] at hsmooth ⊢
  simp only [gone, passage?, hback]
  -- One message at most comes first, and it can be said.
  cases hway : g.way? l with
  | none =>
    simp only [hway, List.singleton_append, List.forall_mem_cons] at hsmooth ⊢
    rw [performAll_smooth_cons hsmooth.1 henglish, Deed.perform_quiet rfl, performAll_forget]
    rfl
  | some e =>
    cases ho : e.isOpen with
    | true =>
      simp only [hway, ho, if_true, List.cons_append, List.nil_append,
        List.forall_mem_cons] at hsmooth ⊢
      rw [performAll_smooth_cons hsmooth.1 henglish, Deed.perform_quiet rfl]
      have hwalk : ∀ ds, (performAll (.walk e.direction e.target ::
          .note (.line .walked ("location " ++ e.target)) :: ds) g).game =
          (performAll ds (g.walked e)).game := fun ds => rfl
      rw [hwalk, performAll_forget]
      simp [Option.filter, ho]
    | false =>
      simp only [hway, ho, Bool.false_eq_true, if_false, List.singleton_append,
        List.forall_mem_cons] at hsmooth ⊢
      rw [performAll_smooth_cons hsmooth.1 henglish, Deed.perform_quiet rfl, performAll_forget]
      simp [Option.filter, ho]

theorem gone_unasked {g : Game} {l : Line} (hargs : l.args = []) : g.gone l = g := by
  have hback : Line.turnsBack l = false := by
    have hword : (Text.caseFold "" == "back") = false := by decide +kernel
    simp [Line.turnsBack, Line.argument, hargs, Text.unwords, hword]
  simp [gone, passage?, way?, hargs, hback]

theorem execute_go {g : Game} {text : String} (henglish : g.catalogue = .english)
    (hverb : (Line.ofText text).verb = "go") :
    (g.execute text).outcome.game = g.gone (Line.ofText text) := by
  have hblank : ¬(Line.ofText text).verb = "" := by simp [hverb]
  by_cases hargs : (Line.ofText text).args = []
  · have hnone : (Line.ofText text).deeds? g = none := by
      simp [Line.deeds?, hverb, Verb.ofWord?, Verb.needsArgument, hargs]
    simp only [execute, hblank, hnone, if_false, trace_next]
    rw [Deed.perform_quiet rfl, gone_unasked hargs]
  · have hdeeds : (Line.ofText text).deeds? g = some (g.go (Line.ofText text).args) := by
      simp [Line.deeds?, hverb, Verb.ofWord?, Verb.needsArgument, hargs, Verb.deeds]
    simp only [execute, hblank, hdeeds, if_false, trace_next]
    exact go_game henglish hverb hargs

theorem Effect.stays {g after : Game} {l : Line} (he : g.Effect l after) (hgo : l.verb ≠ "go")
    (hrestart : l.verb ≠ "restart") : after.session.area = g.session.area ∧
      after.session.heading = g.session.heading := by
  cases he with
  | none => exact ⟨rfl, rfl⟩
  | restart hl => exact absurd hl hrestart
  | quit => exact ⟨rfl, rfl⟩
  | drop =>
    obtain ⟨bag, hbag⟩ := g.carry_session _ .bag .ground
    rw [hbag]
    exact ⟨rfl, rfl⟩
  | take =>
    obtain ⟨bag, hbag⟩ := g.carry_session _ _ .bag
    rw [hbag]
    exact ⟨rfl, rfl⟩
  | walk hl => exact absurd hl hgo
  | walkBack hl => exact absurd hl hgo
  | forget hl => exact absurd hl hgo
  | unlock => exact ⟨rfl, rfl⟩

theorem area_found {w : World} (hw : w.Sound) {id : String} (h : id ∈ w.areas.keys) :
    (w.area? id |>.map (·.id)) = some id := by
  obtain ⟨area, harea⟩ := Option.isSome_iff_exists.mp (Table.get?_isSome.mpr h)
  rw [World.area?, harea, Option.map_some, (hw.area harea).1]

theorem Sound.walked_area {g : Game} (hg : g.Sound) {l : Line} {e : Exit} (h : g.Way l e) :
    (g.walked e).session.area = some e.target := by
  obtain ⟨-, -, area, direction, harea, -, hleads⟩ := h
  exact area_found hg.world (hg.exit_known harea (Area.exit?_eq_some.mpr hleads))

theorem Sound.gone_area {g : Game} (hg : g.Sound) (l : Line) : (g.gone l).session.area =
    (g.passage? l).elim g.session.area fun e => some e.target := by
  have hthere : ((g.passage? l).elim g g.walked).session.area =
      (g.passage? l).elim g.session.area fun e => some e.target := by
    cases hp : g.passage? l with
    | none => rfl
    | some e => exact hg.walked_area (passage?_eq_some.mp hp).1
  rw [gone]
  split <;> exact hthere

theorem Spoken.heard_area {document : Node} {w : World} {g : Game} (hg : g.Spoken document w)
    (text : String) : (g.execute text).outcome.game.session.area =
      if (Line.ofText text).verb = "restart" then none
      else (g.passage? (Line.ofText text)).elim g.session.area fun e => some e.target := by
  by_cases hrestart : (Line.ofText text).verb = "restart"
  · obtain ⟨again, hload, -⟩ := hg.tallied.steady.again
    have hover : g.startsOver text = true := by
      rw [startsOver, hrestart, hg.english]
      rfl
    rw [if_pos hrestart, startsOver_execute hover, reset_game hload]
    rfl
  · rw [if_neg hrestart]
    by_cases hgo : (Line.ofText text).verb = "go"
    · rw [execute_go hg.english hgo, hg.tallied.steady.sound.gone_area]
    · have hnone : g.passage? (Line.ofText text) = none := by simp [passage?, way?, hgo]
      rw [hnone]
      exact ((g.execute_effect text).stays hgo hrestart).1

/-- What can take the player to another area. -/
inductive Moves (g : Game) (m : Move) : Option String → Prop where
  | entered {lines : Lines} {area : String} : m = .tick lines →
      g.session.due? = some (.enter area) → Moves g m (some area)
  | restarted {l : Line} : g.heard? m = some l → l.verb = "restart" → Moves g m none
  | went {l : Line} {e : Exit} : g.heard? m = some l → g.Way l e → e.isOpen = true →
      Moves g m (some e.target)

theorem played_moves {g before : Game} {cue : Cue} {lines : Lines} (hw : before.world.Sound)
    (hcue : cue.Within before.world.areas.keys) (hdue : g.session.due? = some cue)
    (harea : before.session.area = g.session.area) :
    (cue.play before).game.session.area = g.session.area ∨
      g.Moves (.tick lines) (cue.play before).game.session.area := by
  have hplayed := cue.play_played before
  generalize (cue.play before).game = after at hplayed
  cases hplayed with
  | @enter area =>
    have hfound : (before.world.area? area |>.map (·.id)) = some area :=
      area_found hw (hcue area (by simp [Cue.targets]))
    have hentered : g.Moves (.tick lines) (some area) := .entered rfl hdue
    rw [← hfound] at hentered
    exact .inr hentered
  | _ => exact .inl harea

variable {document : Node} {w : World} {g : Game}

theorem Spoken.heard_move {m : Move} {l : Line} (hg : g.Spoken document w)
    (h : g.heard? m = some l) : (g.move m).session.area =
      if l.verb = "restart" then none
      else (g.passage? l).elim g.session.area fun e => some e.target := by
  obtain ⟨text, rfl, hmove, -⟩ := move_heard h
  rw [hmove]
  exact hg.heard_area text

theorem Spoken.heard_moves {m : Move} {l : Line} (hg : g.Spoken document w)
    (h : g.heard? m = some l) : (g.move m).session.area = g.session.area ∨
      g.Moves m (g.move m).session.area := by
  rw [hg.heard_move h]
  split
  · next hrestart => exact .inr (.restarted h hrestart)
  · cases hp : g.passage? l with
    | none => exact .inl rfl
    | some e =>
      obtain ⟨hway, hopen⟩ := passage?_eq_some.mp hp
      exact .inr (.went h hway hopen)

theorem Spoken.tick_moves (hg : g.Spoken document w) (lines : Lines) :
    (g.move (.tick lines)).session.area = g.session.area ∨
      g.Moves (.tick lines) (g.move (.tick lines)).session.area := by
  have hsound := hg.tallied.steady.sound
  cases hheard : g.heard? (.tick lines) with
  | some l => exact hg.heard_moves hheard
  | none =>
    rw [Game.move]
    have htakes := g.tick_takes lines
    generalize g.tick lines = t at htakes
    cases htakes with
    | finished => exact .inl rfl
    | @answered cue =>
      rw [reading_answer]
      cases lines.first?.bind cue.reply? <;> exact .inl rfl
    | queued hf hp hq =>
      exact played_moves hsound.world (hsound.queue _ (by simp [hq])) (due?_queued hf hp hq) rfl
    | scripted hf hp hq hr =>
      exact played_moves hsound.world (hsound.remaining (by simp [hr]))
        (due?_scripted hf hp hq hr) rfl
    | commanded hstate =>
      have hreads := g.reading_reads lines fun g line => (g.execute line).outcome
      generalize g.reading lines (fun g line => (g.execute line).outcome) = t at hreads
      cases hreads with
      | ended => exact .inl rfl
      | interrupted => exact .inl rfl
      | line => simp [heard?, hstate] at hheard

/-- The player only changes areas where a cue leads, by starting over, or through the first exit in
the direction asked for. That exit is gone through exactly if it is open. -/
theorem movement_sound {traced : Bool} {o : Outcome}
    (h : ofDocument document .english traced = .ok o) (moves : List Move) :
    (∀ m, m ≠ .reset →
      ((o.game.after moves).move m).session.area ≠ (o.game.after moves).session.area →
      (o.game.after moves).Moves m ((o.game.after moves).move m).session.area) ∧
    ∀ m l, (o.game.after moves).heard? m = some l → l.verb = "go" →
      (∀ e, (o.game.after moves).Way l e → e.isOpen = true →
        ((o.game.after moves).move m).session.area = some e.target) ∧
      (∀ e, (o.game.after moves).Way l e → e.isOpen = false →
        ((o.game.after moves).move m).session.area = (o.game.after moves).session.area) ∧
      ((∀ e, ¬(o.game.after moves).Way l e) →
        ((o.game.after moves).move m).session.area = (o.game.after moves).session.area) := by
  obtain ⟨w, hw, -⟩ := ofDocument_ok h
  have hg : (o.game.after moves).Spoken document w :=
    (ofDocument_spoken h hw).after (World.ofDocument_ok.mp hw).2 moves
  generalize o.game.after moves = g at hg
  constructor
  · intro m hm hmoved
    cases m with
    | tick lines => exact (hg.tick_moves lines).resolve_left hmoved
    | execute text => exact (hg.heard_moves rfl).resolve_left hmoved
    | reset => exact absurd rfl hm
  · intro m l hheard hgo
    have hrestart : l.verb ≠ "restart" := by simp [hgo]
    have harea := hg.heard_move hheard
    rw [if_neg hrestart] at harea
    rw [harea]
    refine ⟨fun e hway hopen => ?_, fun e hway hclosed => ?_, fun hnone => ?_⟩
    · rw [passage?_eq_some.mpr ⟨hway, hopen⟩]
      rfl
    · rw [passage?, way?_eq_some.mpr hway]
      simp [Option.filter, hclosed]
    · have hp : g.passage? l = none := Option.eq_none_iff_forall_ne_some.mpr fun e he =>
        hnone e (passage?_eq_some.mp he).1
      rw [hp]
      rfl

def visit : List Move := arrival ++ [.execute "GO North"]

theorem movement_sound_sample :
    ∃ o, ofDocument Sample.document .english false = .ok o ∧
    ((o.game.after arrival).move (.execute "GO North")).session.area = some "hall" ∧
    ((o.game.after visit).move (.execute "go down")).session.area =
      (o.game.after visit).session.area := by
  have hrun : (ofDocument Sample.document .english false).toOption.any (fun o =>
      ((o.game.after arrival).way? (Line.ofText "GO North")).any (fun e =>
        e.target == "hall" && e.isOpen) &&
      ((o.game.after visit).way? (Line.ofText "go down")).any fun e => !e.isOpen) = true := by
    decide +kernel
  obtain ⟨o, ho, hrun⟩ := opens_with hrun
  simp only [Bool.and_eq_true, Option.any_eq_true, beq_iff_eq, Bool.not_eq_true'] at hrun
  obtain ⟨⟨north, hnorth, htarget, hopen⟩, down, hdown, hclosed⟩ := hrun
  have hway := way?_eq_some.mp hnorth
  have hdoor := way?_eq_some.mp hdown
  have hgo : (Line.ofText "GO North").verb = "go" := by decide +kernel
  have hgo' : (Line.ofText "go down").verb = "go" := by decide +kernel
  refine ⟨o, ho, ?_, ?_⟩
  · rw [← htarget]
    exact ((movement_sound ho arrival).2 (.execute "GO North") _ rfl hgo).1 north hway hopen
  · exact ((movement_sound ho visit).2 (.execute "go down") _ rfl hgo').2.1 down hdoor hclosed

end Game

end Fabula

import Fabula.Proofs.Turn

/-!
What a step can leave of a game: one case for each thing that a line of the player, a cue or a turn
does. Whether the step also breaks off makes no difference to what is left.
-/

set_option autoImplicit false

namespace Fabula

namespace Outcome

@[simp] theorem done_game (g : Game) : (done g).game = g := rfl

@[simp] theorem failed_game (g : Game) (fault : Fault) : (failed g fault).game = g := rfl

@[simp] theorem done_fault (g : Game) : (done g).fault = none := rfl

theorem done_next (g : Game) (step : Game → Outcome) : (done g).next step = step g := rfl

theorem next_game (o : Outcome) (step : Game → Outcome) :
    (o.next step).game = if o.fault.isSome then o.game else (step o.game).game := by
  unfold next
  cases o.fault <;> rfl

theorem next_fault (o : Outcome) (step : Game → Outcome) :
    (o.next step).fault = if o.fault.isSome then o.fault else (step o.game).fault := by
  unfold next
  cases h : o.fault <;> simp [h]

end Outcome

@[simp] theorem Game.trace_game (g : Game) (topic : Topic) (line : String) :
    (g.trace topic line).game = g := rfl

@[simp] theorem Game.display_game (g : Game) (text : String) : (g.display text).game = g := rfl

@[simp] theorem Game.display_fault (g : Game) (text : String) :
    (g.display text).fault = none := rfl

@[simp] theorem Game.trace_fault (g : Game) (topic : Topic) (line : String) :
    (g.trace topic line).fault = none := rfl

@[simp] theorem Game.trace_next (g : Game) (topic : Topic) (line : String) (step : Game → Outcome) :
    ((g.trace topic line).next step).game = (step g).game := rfl

namespace Deed

def IsQuiet : Deed → Bool
  | tell _ | say _ | fill .. | offer .. | stumble | note _ => true
  | carry .. | enter _ | walk .. | forgetHeading | unlock _ | askToQuit | restart | finish => false

theorem showing_game (g : Game) (text : Except Fault String) : (g.showing text).game = g := by
  cases text <;> rfl

theorem perform_quiet {d : Deed} (h : d.IsQuiet = true) (g : Game) : (d.perform g).game = g := by
  cases d with
  | tell text => rfl
  | say key => exact showing_game g _
  | fill key fields => exact showing_game g _
  | offer number text => exact showing_game g _
  | stumble => rfl
  | note n =>
    rw [perform]
    cases g.noteText n <;> rfl
  | _ => cases h

end Deed

theorem performAll_quiet {ds : List Deed} (h : ∀ d ∈ ds, d.IsQuiet = true) (g : Game) :
    (performAll ds g).game = g := by
  induction ds with
  | nil => rfl
  | cons d ds ih =>
    simp only [List.forall_mem_cons] at h
    rw [performAll_cons, Outcome.next_game, Deed.perform_quiet h.1, ih h.2]
    simp

/-- What follows a quiet deed happens to the same game, or not at all. -/
theorem performAll_quiet_first {d : Deed} (h : d.IsQuiet = true) (ds : List Deed) (g : Game) :
    (performAll (d :: ds) g).game = g ∨ (performAll (d :: ds) g).game = (performAll ds g).game := by
  rw [performAll_cons, Outcome.next_game, Deed.perform_quiet h]
  cases (d.perform g).fault <;> simp

theorem performAll_then_quiet (d : Deed) {ds : List Deed} (h : ∀ d ∈ ds, d.IsQuiet = true)
    (g : Game) : (performAll (d :: ds) g).game = (d.perform g).game := by
  rw [performAll_cons, Outcome.next_game, performAll_quiet h]
  simp

namespace Game

def walked (g : Game) (e : Exit) : Game :=
  g.changeSession fun s =>
    { s with heading := some e.direction, area := g.world.area? e.target |>.map (·.id) }

def withoutHeading (g : Game) : Game := g.changeSession fun s => { s with heading := none }

theorem quitQuestion_eq {g : Game} {question : Cue} (h : g.quitQuestion = .ok question) :
    ∃ asked yes no, question = .choose asked [(yes, .act .finish), (no, .pass)] := by
  unfold quitQuestion at h
  cases hm : g.message "quit_prompt" <;> cases hy : g.message "quit_yes" <;>
    cases hn : g.message "quit_no" <;>
    simp [hm, hy, hn, bind, Except.bind, pure, Except.pure] at h
  exact ⟨_, _, _, h.symm⟩

/-- What a line of the player can leave of a game. -/
inductive Effect (g : Game) (l : Line) : Game → Prop where
  | none : Effect g l g
  | restart : l.verb = "restart" → (g.catalogue.get? "restarted").isSome → Effect g l g.reset.game
  | quit {question : Cue} : l.verb = "quit" → g.quitQuestion = .ok question →
      Effect g l (g.changeSession (·.push question))
  | drop {area : Area} {item : Item} : l.verb = "drop" → g.area? = some area →
      g.surroundings.itemIn? .bag l.argument = some item → Effect g l (g.carry item.id .bag .ground)
  | take {item : Item} {place : Place} : l.verb = "take" →
      g.surroundings.target? l.args = some (.item item place) → place ≠ .bag →
      Effect g l (g.carry item.id place .bag)
  | walk {area : Area} {direction : String} {e : Exit} : l.verb = "go" → g.area? = some area →
      g.direction? l.argument = some direction → area.exit? direction = some e →
      e.isOpen = true → Effect g l (g.walked e)
  | walkBack {area : Area} {direction : String} {e : Exit} : l.verb = "go" → g.area? = some area →
      g.direction? l.argument = some direction → area.exit? direction = some e →
      e.isOpen = true → Text.caseFold l.argument = "back" → Effect g l (g.walked e).withoutHeading
  | forget : l.verb = "go" → Text.caseFold l.argument = "back" → Effect g l g.withoutHeading
  | unlock {id : String} {area : Area} {i : Nat} {e : Exit} : l.verb = "open" →
      g.session.area = some id → g.world.area? id = some area →
      area.exitTo? l.argument = some i → area.exits[i]? = some e → e.isOpen = false →
      g.lacksKey e = .none → Effect g l { g with world := g.world.unlock id i }

theorem Effect.of_quiet {g : Game} {l : Line} {ds : List Deed} (h : ∀ d ∈ ds, d.IsQuiet = true) :
    g.Effect l (performAll ds g).game := by
  rw [performAll_quiet h]
  exact .none

theorem listing_quiet (g : Game) (key : String) (h : Holdings) :
    ∀ d ∈ g.listing key h, d.IsQuiet = true := by
  intro d hd
  obtain ⟨i, hi, rfl⟩ := List.mem_mapIdx.mp hd
  rfl

theorem listBag_quiet (g : Game) : ∀ d ∈ g.listBag, d.IsQuiet = true := by
  unfold listBag
  cases g.session.bag with
  | nil => simp [Deed.IsQuiet]
  | cons row rows =>
    intro d hd
    rcases List.mem_cons.mp hd with rfl | hd
    · rfl
    · obtain ⟨entry, -, rfl⟩ := List.mem_map.mp hd
      rfl

theorem examine_quiet (g : Game) (args : List String) : ∀ d ∈ g.examine args, d.IsQuiet = true := by
  unfold examine
  cases g.surroundings.target? args with
  | none => simp [Deed.IsQuiet]
  | some target =>
    cases target with
    | item item place => simp [Deed.IsQuiet]
    | fixture i f =>
      intro d hd
      rcases List.mem_append.mp hd with hd | hd
      · by_cases he : f.description = "" <;> simp [he] at hd
        simp [hd, Deed.IsQuiet]
      · by_cases he : f.items = []
        · simp [he] at hd
          simp [hd, Deed.IsQuiet]
        · simp only [he, if_false, List.mem_cons] at hd
          rcases hd with rfl | hd
          · rfl
          · exact g.listing_quiet _ _ d hd

theorem look_quiet (g : Game) : ∀ d ∈ g.look, d.IsQuiet = true := by
  unfold look
  cases g.area? with
  | none => simp
  | some area =>
    intro d hd
    simp only [List.cons_append, List.mem_cons, List.mem_append] at hd
    rcases hd with rfl | (hd | hd) | hd
    · rfl
    · obtain ⟨i, hi, rfl⟩ := List.mem_mapIdx.mp hd
      rfl
    · obtain ⟨e, -, rfl⟩ := List.mem_map.mp hd
      rfl
    · exact g.listing_quiet _ _ d hd

theorem dropItem_effect (g : Game) {l : Line} (hl : l.verb = "drop") :
    g.Effect l (performAll (g.dropItem l.args) g).game := by
  unfold dropItem
  cases ha : g.area? with
  | none => exact .of_quiet (by simp [Deed.IsQuiet])
  | some area =>
    cases hi : g.surroundings.itemIn? .bag (Text.unwords l.args) with
    | none => exact .of_quiet (by simp [Deed.IsQuiet])
    | some item =>
      rw [performAll_then_quiet _ (by simp [Deed.IsQuiet])]
      exact .drop hl ha hi

theorem takeItem_effect (g : Game) {l : Line} (hl : l.verb = "take") :
    g.Effect l (performAll (g.takeItem l.args) g).game := by
  unfold takeItem
  cases ht : g.surroundings.target? l.args with
  | none => exact .of_quiet (by simp [Deed.IsQuiet])
  | some target =>
    cases target with
    | fixture i f => exact .of_quiet (by simp [Deed.IsQuiet])
    | item item place =>
      cases place with
      | bag => exact .of_quiet (by simp [Deed.IsQuiet])
      | ground =>
        rw [performAll_then_quiet _ (by simp [Deed.IsQuiet])]
        exact .take hl ht (by simp)
      | fixture i =>
        rw [performAll_then_quiet _ (by simp [Deed.IsQuiet])]
        exact .take hl ht (by simp)

theorem unlock_effect (g : Game) {l : Line} (hl : l.verb = "open") :
    g.Effect l (performAll (g.unlock l.args) g).game := by
  unfold unlock
  cases hid : g.session.area with
  | none =>
    have ha : g.area? = none := by simp [area?, hid]
    simp only [ha, Option.bind_eq_bind, Option.bind_none]
    exact .of_quiet (by simp [Deed.IsQuiet])
  | some id =>
    cases ha : g.world.area? id with
    | none =>
      have hnone : g.area? = none := by simp [area?, hid, ha]
      simp only [hnone, Option.bind_eq_bind, Option.bind_none]
      exact .of_quiet (by simp [Deed.IsQuiet])
    | some area =>
      have hsome : g.area? = some area := by simp [area?, hid, ha]
      simp only [hsome, Option.bind_eq_bind, Option.bind_some]
      cases hi : area.exitTo? (Text.unwords l.args) with
      | none => exact .of_quiet (by simp [Deed.IsQuiet])
      | some i =>
        cases he : area.exits[i]? with
        | none =>
          simp only [he, Option.bind_some, Option.bind_none]
          exact .of_quiet (by simp [Deed.IsQuiet])
        | some e =>
          simp only [he, Option.bind_some, Option.pure_def]
          cases ho : e.isOpen with
          | true => exact .of_quiet (by simp [Deed.IsQuiet])
          | false =>
            simp only [Bool.false_eq_true, if_false]
            cases hk : g.lacksKey e with
            | some key => exact .of_quiet (by simp [Deed.IsQuiet])
            | none =>
              simp only
              rw [performAll_then_quiet _ (by simp [Deed.IsQuiet])]
              have heff := Effect.unlock (g := g) hl hid ha hi he ho hk
              simpa [Deed.perform, hid] using heff

/-- The end of a `go`: a direction that was asked for by `back` is forgotten. -/
theorem forget_last {l : Line} {g after : Game} {back : Prop} [Decidable back]
    (h : ¬back → g.Effect l after) (hb : back → g.Effect l after.withoutHeading) :
    g.Effect l (performAll (if back then [.forgetHeading] else []) after).game := by
  by_cases hback : back
  · rw [if_pos hback]
    exact hb hback
  · rw [if_neg hback]
    exact h hback

/-- Without a way nothing is done but to forget the direction. -/
theorem stay_effect (g : Game) {l : Line} (hl : l.verb = "go") {d : Deed}
    (hd : d.IsQuiet = true) : g.Effect l (performAll
      ([d] ++ if Text.caseFold l.argument = "back" then [.forgetHeading] else []) g).game := by
  rw [List.singleton_append]
  rcases performAll_quiet_first hd
    (if Text.caseFold l.argument = "back" then [.forgetHeading] else []) g with hg | hg
  · rw [hg]
    exact .none
  · rw [hg]
    exact forget_last (fun _ => .none) fun hback => .forget hl hback

theorem walk_effect (g : Game) {l : Line} (hl : l.verb = "go") {area : Area}
    (ha : g.area? = some area) {direction : String} (hd : g.direction? l.argument = some direction)
    {e : Exit} (he : area.exit? direction = some e) (ho : e.isOpen = true) :
    g.Effect l (performAll
      ([.fill "moved" [("direction", .text e.direction)], .walk e.direction e.target,
        .note (.line .walked ("location " ++ e.target))] ++
        if Text.caseFold l.argument = "back" then [.forgetHeading] else []) g).game := by
  have hmoved : ∀ ds, (performAll (.walk e.direction e.target ::
      .note (.line .walked ("location " ++ e.target)) :: ds) g).game =
      (performAll ds (g.walked e)).game := fun ds => rfl
  simp only [List.cons_append, List.nil_append]
  rcases performAll_quiet_first (d := .fill "moved" [("direction", .text e.direction)]) rfl
    (.walk e.direction e.target :: .note (.line .walked ("location " ++ e.target)) ::
      if Text.caseFold l.argument = "back" then [.forgetHeading] else []) g with hg | hg
  · rw [hg]
    exact .none
  · rw [hg, hmoved]
    exact forget_last (fun _ => .walk hl ha hd he ho) fun hback => .walkBack hl ha hd he ho hback

theorem go_effect (g : Game) {l : Line} (hl : l.verb = "go") :
    g.Effect l (performAll (g.go l.args) g).game := by
  unfold go
  rw [← Line.argument]
  cases ha : g.area? with
  | none => exact g.stay_effect hl rfl
  | some area =>
    cases hd : g.direction? l.argument with
    | none =>
      simp only [Option.bind_eq_bind, Option.bind_some, Option.bind_none, hd]
      exact g.stay_effect hl rfl
    | some direction =>
      simp only [Option.bind_eq_bind, Option.bind_some, hd]
      cases he : area.exit? direction with
      | none => exact g.stay_effect hl rfl
      | some e =>
        cases ho : e.isOpen with
        | false =>
          simp only [ho, Bool.false_eq_true, if_false]
          exact g.stay_effect hl rfl
        | true =>
          simp only [ho, if_true]
          exact g.walk_effect hl ha hd he ho

theorem restart_game {g : Game} {text : String} (h : g.catalogue.get? "restarted" = some text) :
    (performAll [.say "restarted", .restart] g).game = g.reset.game := by
  have hshow : (Deed.say "restarted").perform g = g.display text := by
    rw [Deed.perform, message, h]
    rfl
  rw [performAll_cons, hshow]
  change (performAll [.restart] g).game = g.reset.game
  rw [performAll_then_quiet _ (by simp)]
  rfl

theorem restart_effect (g : Game) {l : Line} (hl : l.verb = "restart") :
    g.Effect l (performAll [.say "restarted", .restart] g).game := by
  cases hm : g.catalogue.get? "restarted" with
  | none =>
    have hfail : (Deed.say "restarted").perform g = .failed g (.noMessage "restarted") := by
      rw [Deed.perform, message, hm]
      rfl
    rw [performAll_cons, hfail]
    exact .none
  | some text =>
    rw [restart_game hm]
    exact .restart hl (by simp [hm])

theorem quit_effect (g : Game) {l : Line} (hl : l.verb = "quit") :
    g.Effect l (performAll [.askToQuit] g).game := by
  rw [performAll_then_quiet _ (by simp), Deed.perform]
  cases hq : g.quitQuestion with
  | error fault => exact .none
  | ok question => exact .quit hl hq

theorem word_of_verb {w : String} {v : Verb} (h : Verb.ofWord? w = some v) :
    w = match v with
      | .restart => "restart"
      | .quit => "quit"
      | .items => "items"
      | .drop => "drop"
      | .take => "take"
      | .examine => "examine"
      | .go => "go"
      | .unlock => "open"
      | .look => "look" := by
  unfold Verb.ofWord? at h
  split at h <;> cases h <;> rfl

theorem verb_effect (g : Game) {l : Line} {v : Verb} (h : Verb.ofWord? l.verb = some v) :
    g.Effect l (performAll (v.deeds l.args g) g).game := by
  have hl := word_of_verb h
  cases v with
  | restart => exact restart_effect g hl
  | quit => exact quit_effect g hl
  | items => exact .of_quiet g.listBag_quiet
  | drop => exact dropItem_effect g hl
  | take => exact takeItem_effect g hl
  | examine => exact .of_quiet (g.examine_quiet l.args)
  | go => exact go_effect g hl
  | unlock => exact unlock_effect g hl
  | look => exact .of_quiet g.look_quiet

theorem execute_effect (g : Game) (text : String) :
    g.Effect (Line.ofText text) (g.execute text).outcome.game := by
  unfold execute
  by_cases hblank : (Line.ofText text).verb = ""
  · simpa [hblank] using Effect.none (g := g)
  · simp only [hblank, if_false]
    cases hd : (Line.ofText text).deeds? g with
    | none =>
      simp only [trace_next]
      rw [Deed.perform_quiet rfl]
      exact .none
    | some deeds =>
      simp only [trace_next]
      unfold Line.deeds? at hd
      cases hv : Verb.ofWord? (Line.ofText text).verb with
      | none => simp [hv] at hd
      | some v =>
        simp only [hv, Option.bind_eq_bind, Option.bind_some] at hd
        split at hd
        · cases hd
        · cases hd
          exact verb_effect g hv

end Game

namespace Cue

inductive Played (g : Game) : Cue → Game → Prop where
  | nothing {cue : Cue} : Played g cue g
  | enter {area : String} : Played g (.enter area)
      (g.changeSession fun s => { s with area := g.world.area? area |>.map (·.id) })
  | finish : Played g (.act .finish) (g.changeSession fun s => { s with finished := true })
  | suspend {cue : Cue} : cue.completes = false →
      Played g cue (g.changeSession fun s => { s with pending := some cue })

theorem play_of_quiet {cue : Cue} (h : ∀ d ∈ cue.deeds, d.IsQuiet = true) (g : Game) :
    Played g cue (cue.play g).game := by
  rw [play, Outcome.next_game, performAll_quiet h]
  cases hc : cue.completes with
  | true => simpa [hc] using Played.nothing
  | false =>
    split
    · exact .nothing
    · simpa [hc] using Played.suspend hc

theorem play_played (cue : Cue) (g : Game) : Played g cue (cue.play g).game := by
  cases cue with
  | narrate text => exact play_of_quiet (by simp [deeds, Deed.IsQuiet]) g
  | pass => exact play_of_quiet (by simp [deeds]) g
  | enter area => exact .enter
  | act action =>
    cases action with
    | hold done => exact play_of_quiet (by simp [deeds]) g
    | missing => exact play_of_quiet (by simp [deeds, Deed.IsQuiet]) g
    | finish =>
      cases hm : g.message "farewell" with
      | error fault =>
        have hg : (play (.act .finish) g).game = g := by
          simp [play, deeds, Deed.perform, hm, Game.showing, Outcome.next, Outcome.failed]
        rw [hg]
        exact .nothing
      | ok text =>
        have hg : (play (.act .finish) g).game =
            g.changeSession fun s => { s with finished := true } := by
          simp [play, deeds, completes, Deed.perform, hm, Game.showing, Game.display, Outcome.next,
            Outcome.done, Game.noteText, Game.trace]
        rw [hg]
        exact .finish
  | choose question options =>
    refine play_of_quiet (fun d hd => ?_) g
    rcases List.mem_cons.mp hd with rfl | hd
    · rfl
    · obtain ⟨i, hi, rfl⟩ := List.mem_mapIdx.mp hd
      rfl

end Cue

namespace Game

/-- What a turn can leave of a game. -/
inductive Turned (g : Game) (lines : Lines) : Game → Prop where
  | nothing : Turned g lines g
  | answer {cue follow : Cue} {line : String} : g.session.pending = some cue →
      cue.reply? line = some follow →
      Turned g lines (g.changeSession fun s => { s with pending := none }.push follow)
  | queued {cue : Cue} {queue : List Cue} {after : Game} : g.session.queue = cue :: queue →
      Cue.Played (g.changeSession fun s => { s with queue }) cue after → Turned g lines after
  | scripted {cue : Cue} {after : Game} : cue ∈ g.session.remaining →
      Cue.Played (g.changeSession fun s => { s with cursor := s.cursor + 1 }) cue after →
      Turned g lines after
  | line {text : String} {rest : Lines} {after : Game} : g.session.state = .awaitingInput →
      lines = some text :: rest → g.Effect (Line.ofText text) after → Turned g lines after

theorem tick_turned (g : Game) (lines : Lines) : g.Turned lines (g.tick lines).outcome.game := by
  have htakes := g.tick_takes lines
  generalize g.tick lines = t at *
  cases htakes with
  | finished => exact .nothing
  | @answered cue hf hp =>
    have hreads := g.reading_reads lines (answer cue)
    generalize g.reading lines (answer cue) = t at *
    cases hreads with
    | ended => exact .nothing
    | interrupted => exact .nothing
    | @line text rest =>
      change g.Turned _ (answer cue g text).game
      unfold answer
      cases hr : cue.reply? text with
      | none => exact .nothing
      | some follow => exact .answer hp hr
  | queued hf hp hq => exact .queued hq (Cue.play_played _ _)
  | scripted hf hp hq hr => exact .scripted (by simp [hr]) (Cue.play_played _ _)
  | commanded hstate =>
    have hreads := g.reading_reads lines fun g line => (g.execute line).outcome
    generalize g.reading lines (fun g line => (g.execute line).outcome) = t at *
    cases hreads with
    | ended => exact .nothing
    | interrupted => exact .nothing
    | @line text rest => exact .line hstate rfl (g.execute_effect text)

end Game

end Fabula

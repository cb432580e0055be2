import Fabula.Proofs.Carrying
import Fabula.Proofs.Movement

/-!
What a line leaves alone. Lines that only ask, and lines that fail, change nothing; the others
change one thing each, and say so.
-/

set_option autoImplicit false

namespace Fabula

def Area.unfenced (a : Area) : Area := { a with exits := [] }

theorem Exit.opened_of_open {e : Exit} (h : e.isOpen = true) : e.opened = e := by
  rw [opened, ← h]

namespace World

structure Unlocked (w v : World) : Prop where
  items : v.items = w.items
  scenes : v.scenes = w.scenes
  ids : v.areas.keys = w.areas.keys
  areas : ∀ id, (v.area? id).map Area.unfenced = (w.area? id).map Area.unfenced
  exits : ∀ id j, v.exit? id j = w.exit? id j ∨ ∃ e, w.exit? id j = some e ∧ e.isOpen = false ∧
    v.exit? id j = some e.opened

theorem unlocked (w : World) (id : String) (i : Nat) : w.Unlocked (w.unlock id i) := by
  cases he : w.exit? id i with
  | none =>
    have hsame : w.unlock id i = w := by
      rw [unlock, show (w.area? id).bind (·.exits[i]?) = none from he]
    rw [hsame]
    exact ⟨rfl, rfl, rfl, fun _ => rfl, fun _ _ => .inl rfl⟩
  | some e =>
    have hexits := exit?_unlock he
    rw [unlock, show (w.area? id).bind (·.exits[i]?) = some e from he] at hexits ⊢
    refine ⟨rfl, rfl, by simp [changeArea], fun x => ?_, fun x j => ?_⟩
    · refine (area?_changeArea_same ?_ _ e.target x).trans (area?_changeArea_same ?_ w id x) <;>
        exact fun _ => rfl
    · rw [hexits]
      cases hx : w.exit? x j with
      | none => exact .inl rfl
      | some c =>
        rw [Option.map_some]
        split
        · cases hc : c.isOpen with
          | true => exact .inl (by rw [Exit.opened_of_open hc])
          | false => exact .inr ⟨c, rfl, hc, rfl⟩
        · exact .inl rfl

end World

def Outcome.Tells (o : Outcome) (first last : String) : Prop :=
  ∃ what, .shown (first ++ what ++ last) ∈ o.seen

theorem Outcome.not_tells {o : Outcome} {message : String} (hseen : o.seen = [.shown message])
    {first : String} {c : Char} (hfirst : first.toList.head? = some c)
    (hother : message.toList.head? ≠ some c) (last : String) : ¬o.Tells first last := by
  rintro ⟨what, hwhat⟩
  rw [hseen, List.mem_singleton, Event.shown.injEq] at hwhat
  refine hother ?_
  obtain ⟨cs, hcs⟩ := List.head?_eq_some_iff.mp hfirst
  rw [← hwhat]
  simp [hcs]

structure Answer.Declines (a : Answer) (g : Game) (message : String) : Prop where
  game : a.outcome.game = g
  seen : a.outcome.seen = [.shown message]
  fault : a.outcome.fault = none

namespace Game

variable {g : Game}

theorem Shows.declines {text : String} {ds : List Deed} {message : String}
    (h : g.Shows ds [message]) (hdeeds : (Line.ofText text).deeds? g = some ds) :
    (g.execute text).Declines g message :=
  ⟨(h.execute hdeeds).1, (h.execute hdeeds).2.2, (h.execute hdeeds).2.1⟩

theorem declines_unknown (henglish : g.catalogue = .english) {text : String}
    (hverb : (Line.ofText text).verb ≠ "") (hdeeds : (Line.ofText text).deeds? g = none) :
    (g.execute text).Declines g "I don't understand that..." := by
  have hsay := say_shown "not_understood" henglish rfl
  have hanswer : (g.execute text).outcome = (g.trace .command
      ("command " ++ (Line.ofText text).verb ++ " args " ++ Text.quotedList (Line.ofText text).args)).next
        (Deed.say "not_understood").perform := by
    simp only [execute, hverb, hdeeds, if_false]
  constructor
  · rw [hanswer, trace_next, hsay, display_game]
  · rw [hanswer, Outcome.next_seen, trace_seen, trace_fault, trace_game, hsay]
    rfl
  · rw [hanswer, Outcome.next_fault, trace_fault, trace_game, hsay]
    rfl

theorem refused (henglish : g.catalogue = .english) {text : String}
    (h : (g.execute text).understood = false) :
    (g.execute text).Declines g "I don't understand that..." := by
  unfold execute at h
  by_cases hverb : (Line.ofText text).verb = ""
  · simp [hverb] at h
  · cases hdeeds : (Line.ofText text).deeds? g with
    | none => exact declines_unknown henglish hverb hdeeds
    | some deeds => simp [hverb, hdeeds] at h

theorem announced {text : String} {d : Deed} {n : Note} {key : String}
    {fs : List (String × Filler)} {after : Game} {w : Template.Wording}
    (hdeeds : (Line.ofText text).deeds? g = some [d, .note n, .fill key fs])
    (hd : d.perform g = .done after) (henglish : after.catalogue = .english)
    (hw : Catalogue.wordings.get? key = some w)
    (hfields : w.parts.all (fun part => (fs.lookup part.2).any (!·.IsAmount)) = true)
    (hfault : (g.execute text).outcome.fault = none) :
    .shown (w.text (shownBy fs)) ∈ (g.execute text).outcome.seen := by
  have hsteps : performAll [d, .note n, .fill key fs] g =
      ((Deed.note n).perform after).next (performAll [.fill key fs]) := by
    rw [performAll_cons, hd, Outcome.done_next, performAll_cons]
  rw [execute_fault hdeeds, hsteps] at hfault
  rw [execute_seen hdeeds, hsteps]
  rw [Deed.perform] at hfault ⊢
  -- If the trace can not be written, the message is not reached.
  cases hn : after.noteText n with
  | error fault => simp [hn, Outcome.next_fault, Outcome.failed] at hfault
  | ok line =>
    simp only [Outcome.next_seen, trace_seen, trace_fault, trace_game, performAll_cons,
      fill_shown henglish hw hfields, display_seen, List.nil_append]
    simp

theorem declines_unasked (henglish : g.catalogue = .english) {text : String} {v : Verb}
    (hv : Verb.ofWord? (Line.ofText text).verb = some v) (hneeds : v.needsArgument = true)
    (hargs : (Line.ofText text).args = []) :
    (g.execute text).Declines g "I don't understand that..." := by
  refine declines_unknown henglish (fun hblank => ?_) (by simp [Line.deeds?, hv, hneeds, hargs])
  rw [hblank] at hv
  cases hv

/-- A line that takes nothing, or carries something into the bag and says so if it can. -/
theorem Sound.take_answer (hg : g.Sound) (henglish : g.catalogue = .english) {text : String}
    (hverb : (Line.ofText text).verb = "take") :
    (∃ message, (g.execute text).Declines g message ∧ message.toList.head? ≠ some 'T') ∨
    (∃ item place, place ≠ .bag ∧ g.Carried item place .bag (g.execute text).outcome.game) ∧
      ((g.execute text).outcome.fault = none → (g.execute text).outcome.Tells "Took " ".") := by
  have hv : Verb.ofWord? (Line.ofText text).verb = some .take := by rw [hverb]; rfl
  by_cases hargs : (Line.ofText text).args = []
  · exact .inl ⟨_, declines_unasked henglish hv rfl hargs, by decide⟩
  · have hdeeds := deeds?_of_verb (g := g) hv hargs
    have hfailure := say_shown "take_failure" henglish rfl
    rw [Verb.deeds] at hdeeds
    cases ht : g.surroundings.target? (Line.ofText text).args with
    | none =>
      rw [takeItem, ht] at hdeeds
      exact .inl ⟨_, Shows.declines (.cons hfailure .nil) hdeeds, by decide⟩
    | some target =>
      cases target with
      | fixture i f =>
        rw [takeItem, ht] at hdeeds
        exact .inl ⟨_, Shows.declines (.cons hfailure .nil) hdeeds, by decide⟩
      | item item place =>
        by_cases hplace : place = .bag
        · subst hplace
          rw [takeItem, ht] at hdeeds
          exact .inl ⟨_, Shows.declines (.cons (fill_shown henglish rfl rfl) .nil) hdeeds, by simp⟩
        · rw [takeItem_eq ht hplace] at hdeeds
          refine .inr ⟨⟨item.id, place, hplace, hg.take_carried hverb ht hplace⟩, fun hfault => ?_⟩
          have hsaid := announced hdeeds rfl
            ((SameStory.carry g item.id place .bag).catalogue.trans henglish) rfl rfl hfault
          exact ⟨item.name, by simpa [String.append_assoc] using hsaid⟩

theorem Sound.drop_answer (hg : g.Sound) (henglish : g.catalogue = .english) {text : String}
    (hverb : (Line.ofText text).verb = "drop") :
    (∃ message, (g.execute text).Declines g message ∧ message.toList.head? ≠ some 'D') ∨
    (∃ item, g.Carried item .bag .ground (g.execute text).outcome.game) ∧
      ((g.execute text).outcome.fault = none → (g.execute text).outcome.Tells "Dropped " ".") := by
  have hv : Verb.ofWord? (Line.ofText text).verb = some .drop := by rw [hverb]; rfl
  by_cases hargs : (Line.ofText text).args = []
  · exact .inl ⟨_, declines_unasked henglish hv rfl hargs, by decide⟩
  · have hdeeds := deeds?_of_verb (g := g) hv hargs
    have hfailure := say_shown "drop_failure" henglish rfl
    rw [Verb.deeds] at hdeeds
    cases harea : g.area? with
    | none =>
      rw [dropItem, harea] at hdeeds
      exact .inl ⟨_, Shows.declines (.cons hfailure .nil) hdeeds, by decide⟩
    | some area =>
      cases hitem : g.surroundings.itemIn? .bag (Line.ofText text).argument with
      | none =>
        rw [Line.argument] at hitem
        rw [dropItem, harea, hitem] at hdeeds
        exact .inl ⟨_, Shows.declines (.cons hfailure .nil) hdeeds, by decide⟩
      | some item =>
        rw [dropItem_eq harea hitem] at hdeeds
        refine .inr ⟨⟨item.id, hg.drop_carried hverb hargs harea hitem⟩, fun hfault => ?_⟩
        have hsaid := announced hdeeds rfl
          ((SameStory.carry g item.id .bag .ground).catalogue.trans henglish) rfl rfl hfault
        exact ⟨item.name, by simpa [String.append_assoc] using hsaid⟩

/-- A line that opens nothing, or unlocks an exit and says so. -/
theorem unlock_answer (henglish : g.catalogue = .english) {text : String}
    (hverb : (Line.ofText text).verb = "open") :
    (∃ message, (g.execute text).Declines g message ∧ message.toList.head? ≠ some 'Y') ∨
    (∃ id i, (g.execute text).outcome.game = { g with world := g.world.unlock id i }) ∧
      (g.execute text).outcome.Tells "You opened the " "]." := by
  have hv : Verb.ofWord? (Line.ofText text).verb = some .unlock := by rw [hverb]; rfl
  by_cases hargs : (Line.ofText text).args = []
  · exact .inl ⟨_, declines_unasked henglish hv rfl hargs, by decide⟩
  · have hdeeds := deeds?_of_verb (g := g) hv hargs
    have hfault : (g.execute text).outcome.fault = none := by
      rw [execute_fault hdeeds]
      exact performAll_smooth (g.unlock_smooth _) henglish
    have hfailure := say_shown "open_failure" henglish rfl
    simp only [Verb.deeds, unlock] at hdeeds
    split at hdeeds
    · exact .inl ⟨_, Shows.declines (.cons hfailure .nil) hdeeds, by decide⟩
    · next area i e hfound =>
      split at hdeeds
      · exact .inl ⟨_, Shows.declines (.cons (fill_shown henglish rfl rfl) .nil) hdeeds, by simp⟩
      · split at hdeeds
        · exact .inl ⟨_, Shows.declines (.cons (fill_shown henglish rfl rfl) .nil) hdeeds, by simp⟩
        · right
          cases hid : g.session.area with
          | none => simp [area?, hid] at hfound
          | some id =>
            have hunlock : (Deed.unlock i).perform g =
                .done { g with world := g.world.unlock id i } := by
              simp [Deed.perform, hid]
            refine ⟨⟨id, i, ?_⟩, ?_⟩
            · rw [execute_game hdeeds, performAll_then_quiet _ (by simp [Deed.IsQuiet]), hunlock]
              rfl
            · have hsaid := announced hdeeds hunlock henglish rfl rfl hfault
              exact ⟨e.kind ++ " [" ++ e.direction,
                by simpa [List.lookup_cons, String.append_assoc] using hsaid⟩

theorem go_answer (henglish : g.catalogue = .english) {text : String}
    (hverb : (Line.ofText text).verb = "go") :
    g.passage? (Line.ofText text) = none ∧
      (∃ message, (g.execute text).outcome.seen = [.shown message] ∧
        message.toList.head? ≠ some 'Y') ∨
    (∃ e, g.passage? (Line.ofText text) = some e) ∧
      (g.execute text).outcome.Tells "You moved [" "]." := by
  have hv : Verb.ofWord? (Line.ofText text).verb = some .go := by rw [hverb]; rfl
  by_cases hargs : (Line.ofText text).args = []
  · exact .inl ⟨by simp [passage?, way?, hargs], _, (declines_unasked henglish hv rfl hargs).seen,
      by decide⟩
  · have hdeeds := deeds?_of_verb (g := g) hv hargs
    rw [Verb.deeds, go_eq hverb hargs] at hdeeds
    have honly : ∀ {d : Deed} {message : String}, d.perform g = g.display message →
        (Line.ofText text).deeds? g = some ([d] ++
          if Text.caseFold (Line.ofText text).argument = "back" then [.forgetHeading] else []) →
        (g.execute text).outcome.seen = [.shown message] := by
      intro d message hd hdeeds
      rw [execute_seen hdeeds, List.singleton_append, performAll_cons, hd, Outcome.next_seen,
        display_seen, display_fault, display_game]
      by_cases hback : Text.caseFold (Line.ofText text).argument = "back"
      · rw [if_pos hback]
        rfl
      · rw [if_neg hback]
        rfl
    cases hway : g.way? (Line.ofText text) with
    | none =>
      rw [hway] at hdeeds
      exact .inl ⟨by simp [passage?, hway], _,
        honly (say_shown "cannot_move" henglish rfl) hdeeds, by decide⟩
    | some e =>
      simp only [hway] at hdeeds
      cases ho : e.isOpen with
      | false =>
        simp only [ho, Bool.false_eq_true, if_false] at hdeeds
        exact .inl ⟨by simp [passage?, hway, Option.filter, ho], _,
          honly (fill_shown henglish rfl rfl) hdeeds, by simp⟩
      | true =>
        simp only [ho, if_true] at hdeeds
        refine .inr ⟨⟨e, by simp [passage?, hway, Option.filter, ho]⟩, e.direction, ?_⟩
        rw [execute_seen hdeeds, List.cons_append, performAll_cons, Outcome.next_seen,
          fill_shown henglish rfl rfl]
        simp [String.append_assoc]

theorem Effect.reading {after : Game} {l : Line} (he : g.Effect l after)
    (hverb : l.verb ∈ ["", "look", "items", "examine"]) : after = g := by
  cases he with
  | none => rfl
  | _ => simp_all

theorem quit_asks (henglish : g.catalogue = .english) {text : String}
    (hverb : (Line.ofText text).verb = "quit") : (g.execute text).outcome.game =
      g.changeSession (·.push (.choose "Are you sure?" [("yes", .act .finish), ("no", .pass)])) := by
  have hdeeds : (Line.ofText text).deeds? g = some [.askToQuit] := by
    simp [Line.deeds?, hverb, Verb.ofWord?, Verb.needsArgument, Verb.deeds]
  rw [execute_game hdeeds, performAll_then_quiet _ (by simp), Deed.perform,
    quitQuestion_english henglish]
  rfl

/-- What a line changes, by what it says. An amount that is too long can keep a line from saying
what it has done. -/
structure Framed (w : World) (g : Game) (text : String) : Prop where
  refused : (g.execute text).understood = false →
    (g.execute text).Declines g "I don't understand that..."
  reading : (Line.ofText text).verb ∈ ["", "look", "items", "examine"] →
    (g.execute text).outcome.game = g
  taken : (Line.ofText text).verb = "take" → (g.execute text).outcome.Tells "Took " "." →
    ∃ item place, place ≠ .bag ∧ g.Carried item place .bag (g.execute text).outcome.game
  untaken : (Line.ofText text).verb = "take" → ¬(g.execute text).outcome.Tells "Took " "." →
    (g.execute text).outcome.game = g ∨
    (∃ item place, place ≠ .bag ∧ g.Carried item place .bag (g.execute text).outcome.game) ∧
      ∃ fault, (g.execute text).outcome.fault = some fault ∧ fault.OverAmount w
  dropped : (Line.ofText text).verb = "drop" → (g.execute text).outcome.Tells "Dropped " "." →
    ∃ item, g.Carried item .bag .ground (g.execute text).outcome.game
  undropped : (Line.ofText text).verb = "drop" → ¬(g.execute text).outcome.Tells "Dropped " "." →
    (g.execute text).outcome.game = g ∨
    (∃ item, g.Carried item .bag .ground (g.execute text).outcome.game) ∧
      ∃ fault, (g.execute text).outcome.fault = some fault ∧ fault.OverAmount w
  opened : (Line.ofText text).verb = "open" →
    (g.execute text).outcome.Tells "You opened the " "]." →
    ∃ v, g.world.Unlocked v ∧ (g.execute text).outcome.game = { g with world := v }
  unopened : (Line.ofText text).verb = "open" →
    ¬(g.execute text).outcome.Tells "You opened the " "]." → (g.execute text).outcome.game = g
  moved : (Line.ofText text).verb = "go" → (g.execute text).outcome.Tells "You moved [" "]." →
    ∃ area heading, (g.execute text).outcome.game =
      g.changeSession fun s => { s with area, heading }
  unmoved : (Line.ofText text).verb = "go" → ¬(g.execute text).outcome.Tells "You moved [" "]." →
    (g.execute text).outcome.game =
      if (Line.ofText text).turnsBack then g.withoutHeading else g
  quit : (Line.ofText text).verb = "quit" → (g.execute text).outcome.game =
    g.changeSession (·.push (.choose "Are you sure?" [("yes", .act .finish), ("no", .pass)]))

theorem Spoken.unsaid {document : Node} {w : World} (hg : g.Spoken document w) {text : String}
    (h : (g.execute text).outcome.fault ≠ none) :
    ∃ fault, (g.execute text).outcome.fault = some fault ∧ fault.OverAmount w := by
  obtain ⟨fault, hfault⟩ := Option.ne_none_iff_exists'.mp h
  exact ⟨fault, hfault,
    hg.overAmount (hg.tallied.steady.execute_fluent hg.english text fault hfault)⟩

theorem Spoken.framed {document : Node} {w : World} (hg : g.Spoken document w) (text : String) :
    g.Framed w text := by
  have hsound := hg.tallied.steady.sound
  exact {
    refused := Game.refused hg.english
    reading := (g.execute_effect text).reading
    taken := fun hverb htold => by
      rcases hsound.take_answer hg.english hverb with ⟨message, hdeclines, hother⟩ | ⟨hcarried, -⟩
      · exact absurd htold (Outcome.not_tells hdeclines.seen rfl hother ".")
      · exact hcarried
    untaken := fun hverb hsilent => by
      rcases hsound.take_answer hg.english hverb with ⟨message, hdeclines, -⟩ | ⟨hcarried, htold⟩
      · exact .inl hdeclines.game
      · exact .inr ⟨hcarried, hg.unsaid fun hnone => hsilent (htold hnone)⟩
    dropped := fun hverb htold => by
      rcases hsound.drop_answer hg.english hverb with ⟨message, hdeclines, hother⟩ | ⟨hcarried, -⟩
      · exact absurd htold (Outcome.not_tells hdeclines.seen rfl hother ".")
      · exact hcarried
    undropped := fun hverb hsilent => by
      rcases hsound.drop_answer hg.english hverb with ⟨message, hdeclines, -⟩ | ⟨hcarried, htold⟩
      · exact .inl hdeclines.game
      · exact .inr ⟨hcarried, hg.unsaid fun hnone => hsilent (htold hnone)⟩
    opened := fun hverb htold => by
      rcases unlock_answer hg.english hverb with ⟨message, hdeclines, hother⟩ | ⟨⟨id, i, hgame⟩, -⟩
      · exact absurd htold (Outcome.not_tells hdeclines.seen rfl hother "].")
      · exact ⟨g.world.unlock id i, g.world.unlocked id i, hgame⟩
    unopened := fun hverb hsilent => by
      rcases unlock_answer hg.english hverb with ⟨message, hdeclines, -⟩ | ⟨-, htold⟩
      · exact hdeclines.game
      · exact absurd htold hsilent
    moved := fun hverb htold => by
      rcases go_answer hg.english hverb with ⟨-, message, hseen, hother⟩ | ⟨⟨e, he⟩, -⟩
      · exact absurd htold (Outcome.not_tells hseen rfl hother "].")
      · rw [execute_go hg.english hverb, gone, he]
        split
        · exact ⟨(g.walked e).session.area, none, rfl⟩
        · exact ⟨(g.walked e).session.area, some e.direction, rfl⟩
    unmoved := fun hverb hsilent => by
      rcases go_answer hg.english hverb with ⟨hnone, -⟩ | ⟨-, htold⟩
      · rw [execute_go hg.english hverb, gone, hnone]
        rfl
      · exact absurd htold hsilent
    quit := quit_asks hg.english }

/-- However a game in English has been played, a line changes what it says, and nothing else; where
it fails, or only asks, nothing changes. -/
theorem lines_framed {document : Node} {w : World} {traced : Bool} {o : Outcome}
    (h : ofDocument document .english traced = .ok o) (hw : World.ofDocument document = .ok w)
    (moves : List Move) (text : String) : (o.game.after moves).Framed w text :=
  ((ofDocument_spoken h hw).after (World.ofDocument_ok.mp hw).2 moves).framed text

theorem lines_framed_sample : ∃ o w, ofDocument Sample.document .english false = .ok o ∧
    World.ofDocument Sample.document = .ok w ∧
    (o.game.after arrival).Framed w "take well" ∧ (o.game.after arrival).Framed w "go north" ∧
    ¬((o.game.after arrival).execute "take well").outcome.Tells "Took " "." ∧
    ((o.game.after arrival).execute "go north").outcome.Tells "You moved [" "]." := by
  have hrun : (ofDocument Sample.document .english false).toOption.any (fun o =>
      ((o.game.after arrival).execute "take well").outcome.seen ==
        [.shown "Can not take that."] &&
      ((o.game.after arrival).execute "go north").outcome.seen ==
        [.shown "You moved [north]."]) = true := by decide +kernel
  obtain ⟨o, ho, hseen⟩ := opens_with hrun
  simp only [Bool.and_eq_true, beq_iff_eq] at hseen
  obtain ⟨w, hw, -⟩ := ofDocument_ok ho
  refine ⟨o, w, ho, hw, lines_framed ho hw arrival "take well", lines_framed ho hw arrival "go north",
    Outcome.not_tells hseen.1 rfl (by decide) ".", "north", ?_⟩
  rw [hseen.2]
  decide

/-- The line that puts down a coin of the hoard does so, and then can not say it. -/
theorem dropped_unsaid : ∃ o, ofDocument (hoard Text.nines) .english false = .ok o ∧
    (Line.ofText "drop coin").verb = "drop" ∧
    ¬((o.game.after [.tick [], .execute "take coin"]).execute "drop coin").outcome.Tells
      "Dropped " "." ∧
    ((o.game.after [.tick [], .execute "take coin"]).execute "drop coin").outcome.game ≠
      o.game.after [.tick [], .execute "take coin"] := by
  obtain ⟨o, ho, hgame, -⟩ := hoard_opens
  have hrun : (((hoardGame.after [.tick [], .execute "take coin"]).execute
        "drop coin").outcome.seen.isEmpty &&
      ((hoardGame.after [.tick [], .execute "take coin"]).execute
        "drop coin").outcome.game.session.bag.isEmpty &&
      !(hoardGame.after [.tick [], .execute "take coin"]).session.bag.isEmpty) = true := by
    decide +kernel
  simp only [Bool.and_eq_true, Bool.not_eq_true', List.isEmpty_iff,
    List.isEmpty_eq_false_iff] at hrun
  obtain ⟨⟨hsilent, hafter⟩, hbefore⟩ := hrun
  rw [← hgame] at hsilent hafter hbefore
  refine ⟨o, ho, by decide +kernel, ?_, fun hsame => hbefore ?_⟩
  · rintro ⟨what, hwhat⟩
    rw [hsilent] at hwhat
    cases hwhat
  · rw [← hafter, hsame]

end Game

end Fabula

import Mathlib.Data.List.Nodup
import Fabula.Proofs.Frame

/-!
Going and opening. A line that asks to go in a direction and one that asks to open something there
find the same exit, and what they say of it agrees. What has been opened is gone through.
-/

set_option autoImplicit false

namespace Fabula

namespace Exit

def passed (e : Exit) : String := "You moved [" ++ e.direction ++ "]."

def barred (e : Exit) : String := "The " ++ e.kind ++ " [" ++ e.direction ++ "] is closed."

def unlocked (e : Exit) : String := "You opened the " ++ e.kind ++ " [" ++ e.direction ++ "]."

theorem unlocked_eq (e : Exit) :
    e.unlocked = "You opened the " ++ e.kind ++ " [" ++ e.direction ++ "]." := rfl

def ajar (e : Exit) : String := "The " ++ e.kind ++ " [" ++ e.direction ++ "] is already open."

def locked (e : Exit) (key : String) : String :=
  "The " ++ e.kind ++ " [" ++ e.direction ++ "] is locked. You need " ++ key ++ "."

end Exit

def noWay : String := "Not possible to go in that direction..."

def noDoor : String := "There is nothing to open there..."

/-- What is said to a player who asks to go somewhere tells what has become of it. -/
theorem Exit.going_apart (e : Exit) :
    e.passed ≠ e.barred ∧ e.passed ≠ noWay ∧ e.barred ≠ noWay := by
  have hdiffer : [e.passed, e.barred, noWay].Nodup := by
    refine List.Nodup.of_map (·.toList.head?) ?_
    simp [passed, barred, noWay]
  simpa [and_assoc] using hdiffer

theorem Exit.opening_apart (e : Exit) (key : String) : e.unlocked ≠ e.ajar ∧
    e.unlocked ≠ e.locked key ∧ e.unlocked ≠ noDoor ∧ e.ajar ≠ e.locked key ∧ e.ajar ≠ noDoor ∧
    e.locked key ≠ noDoor := by
  have hfirst : ∀ m ∈ [e.ajar, e.locked key, noDoor], m.toList.head? = some 'T' := by
    simp [ajar, locked, noDoor]
  have hunlocked : e.unlocked ∉ [e.ajar, e.locked key, noDoor] := fun hmem => by
    simpa [unlocked_eq] using hfirst _ hmem
  have hfourth : ∀ m ∈ [e.ajar, e.locked key], m.toList[3]? = some ' ' := by simp [ajar, locked]
  have hnone : noDoor ∉ [e.ajar, e.locked key] := fun hmem => by
    simpa [noDoor] using hfourth _ hmem
  have hlocked : e.ajar ≠ e.locked key := by
    intro h
    have hend : "] is already open." = "] is locked. You need " ++ (key ++ ".") := by
      simpa [ajar, locked, String.append_assoc] using h
    have hsixth : "] is already open.".toList[5]? = some 'a' := rfl
    rw [hend] at hsixth
    simp at hsixth
  simp only [List.mem_cons, List.not_mem_nil, or_false, not_or] at hunlocked hnone
  exact ⟨hunlocked.1, hunlocked.2.1, hunlocked.2.2, hlocked, Ne.symm hnone.1, Ne.symm hnone.2⟩

namespace Area

theorem leads_iff {a : Area} {direction : String} {e : Exit} :
    a.Leads direction e ↔ ∃ i, a.exitTo? direction = some i ∧ a.exits[i]? = some e := by
  rw [← exit?_eq_some, exit?, exitTo?, List.find?_eq_some_iff_getElem]
  simp only [List.findIdx?_eq_some_iff_getElem]
  constructor
  · rintro ⟨hmeant, i, hi, rfl, hbefore⟩
    exact ⟨i, ⟨hi, hmeant, by simpa using hbefore⟩, List.getElem?_eq_getElem hi⟩
  · rintro ⟨i, ⟨hi, hmeant, hbefore⟩, he⟩
    obtain ⟨_, rfl⟩ := List.getElem?_eq_some_iff.mp he
    exact ⟨hmeant, i, hi, rfl, by simpa using hbefore⟩

theorem leads_unique {a : Area} {direction : String} {e e' : Exit} (h : a.Leads direction e)
    (h' : a.Leads direction e') : e = e' :=
  Option.some.inj ((exit?_eq_some.mpr h).symm.trans (exit?_eq_some.mpr h'))

theorem exitTo?_eq_none {a : Area} {direction : String} :
    a.exitTo? direction = none ↔ a.exit? direction = none := by
  simp [exitTo?, exit?]

theorem exitTo?_congr {a b : Area} (h : a.exits.map (·.direction) = b.exits.map (·.direction))
    (direction : String) : a.exitTo? direction = b.exitTo? direction := by
  have hlabels : ∀ c : Area, c.exitTo? direction =
      (c.exits.map (·.direction)).findIdx? (Text.sameFolded · direction) :=
    fun c => by rw [exitTo?, List.findIdx?_map]; rfl
  rw [hlabels, hlabels, h]

end Area

namespace World

theorem leads_changed {w v : World} {id direction : String} {change : Nat → Exit → Exit}
    (hexits : ∀ j, v.exit? id j = (w.exit? id j).map (change j))
    (hlabels : ∀ j c, (change j c).direction = c.direction) {area : Area}
    (harea : w.area? id = some area) {i : Nat} {e : Exit} (hi : area.exitTo? direction = some i)
    (he : area.exits[i]? = some e) :
    ∃ after, v.area? id = some after ∧ after.Leads direction (change i e) := by
  have hchanged : v.exit? id i = some (change i e) := by
    rw [hexits, exit?, harea, Option.bind_some, he, Option.map_some]
  obtain ⟨after, hafter, hat⟩ := Option.bind_eq_some_iff.mp hchanged
  have hsame : after.exits.map (·.direction) = area.exits.map (·.direction) := by
    refine List.ext_getElem? fun j => ?_
    have hj := hexits j
    rw [exit?, exit?, hafter, harea, Option.bind_some, Option.bind_some] at hj
    rw [List.getElem?_map, List.getElem?_map, hj, Option.map_map]
    exact congrArg (Option.map · _) (funext fun c => hlabels j c)
  exact ⟨after, hafter, Area.leads_iff.mpr ⟨i, by rw [Area.exitTo?_congr hsame, hi], hat⟩⟩

theorem leads_unlock {w : World} {id direction : String} {area : Area} {i : Nat} {e : Exit}
    (harea : w.area? id = some area) (hi : area.exitTo? direction = some i)
    (he : area.exits[i]? = some e) : ∃ after, (w.unlock id i).area? id = some after ∧
      after.Leads direction e.opened := by
  have hexit : w.exit? id i = some e := by rw [exit?, harea, Option.bind_some, he]
  obtain ⟨after, hafter, hleads⟩ := leads_changed (exit?_unlock hexit id)
    (fun j c => by split <;> rfl) harea hi he
  exact ⟨after, hafter, by simpa using hleads⟩

end World

structure Answer.Says (a : Answer) (message : String) : Prop where
  seen : a.outcome.seen = [.shown message]
  fault : a.outcome.fault = none

theorem Answer.Declines.answers {a : Answer} {g : Game} {message : String}
    (h : a.Declines g message) : a.Says message :=
  ⟨h.seen, h.fault⟩

theorem Answer.Says.other {a : Answer} {message message' : String} (h : a.Says message)
    (hother : message ≠ message') : ¬a.Says message' := by
  intro h'
  exact hother (by simpa using h.seen.symm.trans h'.seen)

namespace Game

/-- What there is in a direction, and what is said of it to a player who asks to go there, and to
one who asks to open it. -/
inductive Doorway (g : Game) (area : Area) (direction : String) (going opening : Answer) :
    Prop where
  | missing : (∀ e, ¬area.Leads direction e) → going.Declines g noWay →
      opening.Declines g noDoor → Doorway g area direction going opening
  | ajar {e : Exit} : area.Leads direction e → e.isOpen = true → going.Says e.passed →
      going.outcome.game = g.walked e → opening.Declines g e.ajar →
      Doorway g area direction going opening
  | locked {e : Exit} {key : String} : area.Leads direction e → going.Declines g e.barred →
      opening.Declines g (e.locked key) → Doorway g area direction going opening
  | closed {id : String} {i : Nat} {e : Exit} : g.session.area = some id →
      area.exitTo? direction = some i → area.exits[i]? = some e → going.Declines g e.barred →
      opening.Says e.unlocked → opening.outcome.game = { g with world := g.world.unlock id i } →
      Doorway g area direction going opening

section

variable {g : Game} {area : Area} {args : List String}

theorem go_onward (harea : g.area? = some area)
    (hback : Text.caseFold (Text.unwords args) ≠ "back") :
    g.go args = match area.exit? (Text.unwords args) with
      | none => [.say "cannot_move"]
      | some e =>
        if e.isOpen then
          [.fill "moved" [("direction", .text e.direction)], .walk e.direction e.target,
            .note (.line .walked ("location " ++ e.target))]
        else [.fill "blocked" [("type", .text e.kind), ("direction", .text e.direction)]] := by
  simp only [go, harea, direction?, if_neg hback, List.append_nil]
  rfl

theorem unlock_nowhere (harea : g.area? = some area)
    (hnone : area.exit? (Text.unwords args) = none) : g.unlock args = [.say "open_failure"] := by
  simp [unlock, harea, Area.exitTo?_eq_none.mpr hnone]

theorem unlock_exit (harea : g.area? = some area) {i : Nat} {e : Exit}
    (hi : area.exitTo? (Text.unwords args) = some i) (he : area.exits[i]? = some e) :
    g.unlock args =
      if e.isOpen then
        [.fill "already_open" [("type", .text e.kind), ("direction", .text e.direction)]]
      else match g.lacksKey e with
        | some key => [.fill "needs_key" [("item", g.itemName key), ("type", .text e.kind),
            ("direction", .text e.direction)]]
        | none =>
          [.unlock i,
            .note (.line .opened
              ("opened " ++ area.id ++ " [" ++ e.direction ++ "] -> " ++ e.target)),
            .fill "opened" [("type", .text e.kind), ("direction", .text e.direction)]] := by
  cases hkey : g.lacksKey e <;> simp [unlock, harea, hi, he, hkey]

theorem fill_worded (henglish : g.catalogue = .english) {key message : String}
    {w : Template.Wording} (hw : Catalogue.wordings.get? key = some w) {fs : List (String × Filler)}
    (hfields : w.parts.all (fun part => (fs.lookup part.2).any (!·.IsAmount)) = true)
    (hmessage : w.text (shownBy fs) = message) :
    (Deed.fill key fs).perform g = g.display message := by
  rw [fill_shown henglish hw hfields, hmessage]

theorem says_of_seen {text message : String} {ds : List Deed}
    (hdeeds : (Line.ofText text).deeds? g = some ds)
    (hseen : (performAll ds g).seen = [.shown message]) (hfault : (performAll ds g).fault = none) :
    (g.execute text).Says message ∧ (g.execute text).outcome.game = (performAll ds g).game :=
  ⟨⟨(execute_seen hdeeds).trans hseen, (execute_fault hdeeds).trans hfault⟩, execute_game hdeeds⟩

theorem Way.deeds {l : Line} {e : Exit} (h : g.Way l e) (hopen : e.isOpen = true) :
    l.deeds? g = some (.fill "moved" [("direction", .text e.direction)] ::
      .walk e.direction e.target :: .note (.line .walked ("location " ++ e.target)) ::
        if Text.caseFold l.argument = "back" then [.forgetHeading] else []) := by
  rw [deeds?_of_verb (v := .go) (by rw [h.verb]; rfl) h.asked, Verb.deeds, go_eq h.verb h.asked,
    way?_eq_some.mpr h]
  simp only [hopen, if_true]
  rfl

theorem go_said {text said : String} {e : Exit} (hway : g.Way (Line.ofText text) e)
    (hopen : e.isOpen = true)
    (hsaid : g.filled "moved" [("direction", .text e.direction)] = .ok said) :
    (g.execute text).Says said ∧ (g.execute text).outcome.game = g.gone (Line.ofText text) := by
  have hfill : (Deed.fill "moved" [("direction", .text e.direction)]).perform g =
      g.display said := by
    rw [Deed.perform, hsaid]
    rfl
  have hrest (ds : List Deed) : performAll (.walk e.direction e.target ::
      .note (.line .walked ("location " ++ e.target)) :: ds) g =
        ((g.walked e).trace .walked ("location " ++ e.target)).next (performAll ds) := rfl
  have hlast (h : Game) : performAll
      (if Text.caseFold (Line.ofText text).argument = "back" then [.forgetHeading] else []) h =
        .done (if Text.caseFold (Line.ofText text).argument = "back" then h.withoutHeading
          else h) := by
    split <;> rfl
  have hgone : g.gone (Line.ofText text) =
      if Text.caseFold (Line.ofText text).argument = "back" then (g.walked e).withoutHeading
      else g.walked e := by
    simp [gone, passage?_eq_some.mpr ⟨hway, hopen⟩, Line.turnsBack, hway.verb]
  refine (says_of_seen (hway.deeds hopen) ?_ ?_).imp_right fun hgame => hgame.trans ?_
  · rw [performAll_cons, hfill, Outcome.next_seen, display_game, hrest, Outcome.next_seen,
      trace_game, hlast]
    simp
  · rw [performAll_cons, hfill, Outcome.next_fault, display_game, hrest, Outcome.next_fault,
      trace_game, hlast]
    rfl
  · rw [performAll_cons, hfill, Outcome.next_game, display_game, hrest, trace_next, hlast, hgone]
    simp [Outcome.done]

theorem filled_of_shown {key said : String} {fs : List (String × Filler)}
    (h : (Deed.fill key fs).perform g = g.display said) : g.filled key fs = .ok said := by
  rw [Deed.perform] at h
  cases hf : g.filled key fs with
  | error fault => simp [hf, showing, Outcome.failed, display] at h
  | ok text => simpa [hf, showing, display] using h

theorem filled_passed (henglish : g.catalogue = .english) (e : Exit) :
    g.filled "moved" [("direction", .text e.direction)] = .ok e.passed :=
  filled_of_shown (fill_worded henglish rfl rfl (by simp [Exit.passed, String.append_assoc]))

theorem go_through (henglish : g.catalogue = .english) (harea : g.area? = some area)
    {text : String} (htext : Line.ofText text = ⟨"go", args⟩) (hargs : args ≠ [])
    (hback : Text.caseFold (Text.unwords args) ≠ "back") {e : Exit}
    (he : area.Leads (Text.unwords args) e) (hopen : e.isOpen = true) :
    (g.execute text).Says e.passed ∧ (g.execute text).outcome.game = g.walked e := by
  have hline : (Line.ofText text).argument = Text.unwords args := by
    rw [htext]
    rfl
  have honward : (Line.ofText text).turnsBack = false := by simp [Line.turnsBack, hline, hback]
  have hway : g.Way (Line.ofText text) e := by
    refine ⟨by rw [htext], by rwa [htext], area, Text.unwords args, harea, ?_, he⟩
    rw [← hline] at hback ⊢
    exact .onward hback
  refine (go_said hway hopen (filled_passed henglish e)).imp_right fun hgame => ?_
  rw [hgame, gone, passage?_eq_some.mpr ⟨hway, hopen⟩, honward]
  rfl

theorem says_unlocked {after : Game} (henglish : after.catalogue = .english) {text : String}
    {i : Nat} {e : Exit} {topic : Topic} {line : String}
    (hunlock : (Deed.unlock i).perform g = .done after)
    (hdeeds : (Line.ofText text).deeds? g = some [.unlock i, .note (.line topic line),
      .fill "opened" [("type", .text e.kind), ("direction", .text e.direction)]]) :
    (g.execute text).Says e.unlocked ∧ (g.execute text).outcome.game = after := by
  have hfill : (Deed.fill "opened"
      [("type", .text e.kind), ("direction", .text e.direction)]).perform after =
        after.display e.unlocked := by
    rw [Exit.unlocked_eq]
    exact fill_worded henglish rfl rfl (by simp [List.lookup_cons, String.append_assoc])
  have hall : performAll [.unlock i, .note (.line topic line),
      .fill "opened" [("type", .text e.kind), ("direction", .text e.direction)]] g =
      (after.trace topic line).next fun h =>
        ((Deed.fill "opened" [("type", .text e.kind), ("direction", .text e.direction)]).perform
          h).next (performAll []) := by
    rw [performAll_cons, hunlock, Outcome.done_next]
    rfl
  refine (says_of_seen hdeeds ?_ ?_).imp_right fun hgame => hgame.trans ?_
  · rw [hall, Outcome.next_seen, trace_seen, trace_game, hfill]
    rfl
  · rw [hall, Outcome.next_fault, trace_game, hfill]
    rfl
  · rw [hall, trace_next, hfill]
    rfl

/-- Each direction that does not ask to go back leads to one doorway. -/
theorem doorway (henglish : g.catalogue = .english) (harea : g.area? = some area)
    {going opening : String} (hgoing : Line.ofText going = ⟨"go", args⟩)
    (hopening : Line.ofText opening = ⟨"open", args⟩) (hargs : args ≠ [])
    (hback : Text.caseFold (Text.unwords args) ≠ "back") :
    g.Doorway area (Text.unwords args) (g.execute going) (g.execute opening) := by
  have hgo : (Line.ofText going).deeds? g = some (g.go args) := by
    rw [hgoing]
    exact deeds?_of_verb (v := .go) rfl hargs
  have hopen : (Line.ofText opening).deeds? g = some (g.unlock args) := by
    rw [hopening]
    exact deeds?_of_verb (v := .unlock) rfl hargs
  rw [go_onward harea hback] at hgo
  cases hexit : area.exit? (Text.unwords args) with
  | none =>
    rw [hexit] at hgo
    rw [unlock_nowhere harea hexit] at hopen
    refine .missing (fun e he => ?_) ?_ ?_
    · rw [Area.exit?_eq_some.mpr he] at hexit
      cases hexit
    · exact Shows.declines (.cons (say_shown _ henglish rfl) .nil) hgo
    · exact Shows.declines (.cons (say_shown _ henglish rfl) .nil) hopen
  | some e =>
    have hleads := Area.exit?_eq_some.mp hexit
    obtain ⟨i, hi, he⟩ := Area.leads_iff.mp hleads
    rw [hexit] at hgo
    rw [unlock_exit harea hi he] at hopen
    cases ho : e.isOpen with
    | true =>
      simp only [ho, if_true] at hopen
      obtain ⟨hsaid, hgame⟩ := go_through henglish harea hgoing hargs hback hleads ho
      have hajar : (g.execute opening).Declines g e.ajar := by
        refine Shows.declines (.cons (fill_worded henglish rfl rfl ?_) .nil) hopen
        simp [Exit.ajar, List.lookup_cons, String.append_assoc]
      exact .ajar hleads ho hsaid hgame hajar
    | false =>
      simp only [ho, Bool.false_eq_true, if_false] at hgo hopen
      have hbarred : (g.execute going).Declines g e.barred := by
        refine Shows.declines (.cons (fill_worded henglish rfl rfl ?_) .nil) hgo
        simp [Exit.barred, List.lookup_cons, String.append_assoc]
      cases hkey : g.lacksKey e with
      | some key =>
        rw [hkey] at hopen
        have hlocked : (g.execute opening).Declines g (e.locked (g.world.itemName key)) := by
          refine Shows.declines (.cons (fill_worded henglish rfl rfl ?_) .nil) hopen
          simp [Exit.locked, itemName, List.lookup_cons, String.append_assoc]
        exact .locked hleads hbarred hlocked
      | none =>
        rw [hkey] at hopen
        cases hid : g.session.area with
        | none => simp [area?, hid] at harea
        | some id =>
          have hunlock : (Deed.unlock i).perform g =
              .done { g with world := g.world.unlock id i } := by
            rw [Deed.perform, hid]
          have henglish' : { g with world := g.world.unlock id i }.catalogue = .english := henglish
          obtain ⟨hsaid, hgame⟩ := says_unlocked henglish' hunlock hopen
          exact .closed hid hi he hbarred hsaid hgame

/-- Lines that ask to go in a direction and to open something there are answered alike: the player
gets through just what is found open, is held up by just what is opened or lacks its key, and goes
nowhere just where nothing can be opened. -/
structure DoorsAgree (g : Game) (area : Area) (direction : String) (going opening : Answer) :
    Prop where
  moves : (∃ e, area.Leads direction e ∧ going.Says e.passed) ↔
    ∃ e, area.Leads direction e ∧ opening.Says e.ajar
  walked : ∀ e, area.Leads direction e → going.Says e.passed → going.outcome.game = g.walked e
  stays : (∀ e, area.Leads direction e → ¬going.Says e.passed) → going.outcome.game = g
  blocked : (∃ e, area.Leads direction e ∧ going.Says e.barred) ↔
    ∃ e, area.Leads direction e ∧ (opening.Says e.unlocked ∨ ∃ key, opening.Says (e.locked key))
  missing : going.Says noWay ↔ opening.Says noDoor

/-- Lines agree on a direction if they agree on the one exit that leads there. -/
theorem DoorsAgree.of_leads {direction : String} {going opening : Answer} {e : Exit}
    (he : area.Leads direction e) (hmoves : going.Says e.passed ↔ opening.Says e.ajar)
    (hwalked : going.Says e.passed → going.outcome.game = g.walked e)
    (hstays : ¬going.Says e.passed → going.outcome.game = g)
    (hblocked : going.Says e.barred ↔
      opening.Says e.unlocked ∨ ∃ key, opening.Says (e.locked key))
    (hmissing : going.Says noWay ↔ opening.Says noDoor) :
    g.DoorsAgree area direction going opening := by
  have honly : ∀ P : Exit → Prop, (∃ e', area.Leads direction e' ∧ P e') ↔ P e := by
    refine fun P => ⟨?_, fun h => ⟨e, he, h⟩⟩
    rintro ⟨e', he', h⟩
    rwa [Area.leads_unique he he']
  exact {
    moves := by rw [honly, honly, hmoves]
    walked := fun e' he' => by rwa [← Area.leads_unique he he']
    stays := fun hnone => hstays (hnone e he)
    blocked := by rw [honly, honly, hblocked]
    missing := hmissing }

theorem Doorway.agree {direction : String} {going opening : Answer}
    (h : g.Doorway area direction going opening) : g.DoorsAgree area direction going opening := by
  have hheld {e : Exit} (he : area.Leads direction e) (hgo : going.Declines g e.barred)
      (hopen : opening.Says e.unlocked ∨ ∃ key, opening.Says (e.locked key)) :
      g.DoorsAgree area direction going opening := by
    obtain ⟨hpassed, -, hnoWay⟩ := e.going_apart
    have hshut : ¬opening.Says e.ajar ∧ ¬opening.Says noDoor := by
      rcases hopen with hopen | ⟨key, hopen⟩
      · obtain ⟨hajar, -, hnone, -⟩ := e.opening_apart ""
        exact ⟨hopen.other hajar, hopen.other hnone⟩
      · obtain ⟨-, -, -, hajar, -, hnone⟩ := e.opening_apart key
        exact ⟨hopen.other hajar.symm, hopen.other hnone⟩
    have hunmoved : ¬going.Says e.passed := hgo.answers.other hpassed.symm
    exact .of_leads he (iff_of_false hunmoved hshut.1) (fun hmoved => absurd hmoved hunmoved)
      (fun _ => hgo.game) (iff_of_true hgo.answers hopen)
      (iff_of_false (hgo.answers.other hnoWay) hshut.2)
  cases h with
  | missing hnone hgo hopen =>
    exact {
      moves := ⟨fun ⟨e, he, _⟩ => absurd he (hnone e), fun ⟨e, he, _⟩ => absurd he (hnone e)⟩
      walked := fun e he => absurd he (hnone e)
      stays := fun _ => hgo.game
      blocked := ⟨fun ⟨e, he, _⟩ => absurd he (hnone e), fun ⟨e, he, _⟩ => absurd he (hnone e)⟩
      missing := ⟨fun _ => hopen.answers, fun _ => hgo.answers⟩ }
  | @ajar e he _ hgo hgame hopen =>
    obtain ⟨hbarred, hnoWay, -⟩ := e.going_apart
    obtain ⟨hunlocked, -, -, -, hnone, -⟩ := e.opening_apart ""
    refine .of_leads he (iff_of_true hgo hopen.answers) (fun _ => hgame) (absurd hgo)
      (iff_of_false (hgo.other hbarred) ?_)
      (iff_of_false (hgo.other hnoWay) (hopen.answers.other hnone))
    rintro (hopened | ⟨key, hkey⟩)
    · exact hopen.answers.other hunlocked.symm hopened
    · exact hopen.answers.other (e.opening_apart key).2.2.2.1 hkey
  | locked he hgo hopen => exact hheld he hgo (.inr ⟨_, hopen.answers⟩)
  | closed hid hi he hgo hopen =>
    exact hheld (Area.leads_iff.mpr ⟨_, hi, he⟩) hgo (.inl hopen)

/-- Behind a line that opens an exit, or finds it open, that exit is still the first one in its
direction, and it is open. All that lead back are open if it had to be opened. -/
theorem Doorway.opened {direction : String} {going opening : Answer}
    (h : g.Doorway area direction going opening) (harea : g.area? = some area) {e : Exit}
    (he : area.Leads direction e) (hsaid : opening.Says e.unlocked ∨ opening.Says e.ajar) :
    ∃ after, opening.outcome.game.area? = some after ∧ after.Leads direction e.opened ∧
      (opening.Says e.unlocked → ∀ id, g.session.area = some id →
        ∀ back ∈ opening.outcome.game.world.ways e.target id e.kind, back.isOpen = true) := by
  cases h with
  | missing hnone => exact absurd he (hnone e)
  | ajar he' hopen _ _ hdeclines =>
    obtain rfl := Area.leads_unique he he'
    rw [hdeclines.game]
    refine ⟨area, harea, by rwa [Exit.opened_of_open hopen], fun hopened => ?_⟩
    exact absurd hopened (hdeclines.answers.other (e.opening_apart "").1.symm)
  | @locked _ key he' _ hdeclines =>
    obtain rfl := Area.leads_unique he he'
    obtain ⟨-, hunlocked, -, hajar, -⟩ := e.opening_apart key
    rcases hsaid with hsaid | hsaid
    · exact absurd hsaid (hdeclines.answers.other hunlocked.symm)
    · exact absurd hsaid (hdeclines.answers.other hajar.symm)
  | @closed id i _ hid hi he' _ _ hgame =>
    obtain rfl := Area.leads_unique he (Area.leads_iff.mpr ⟨i, hi, he'⟩)
    have hhere : g.world.area? id = some area := by simpa [area?, hid] using harea
    have hexit : g.world.exit? id i = some e := by
      rw [World.exit?, hhere, Option.bind_some, he']
    obtain ⟨after, hafter, hleads⟩ := World.leads_unlock hhere hi he'
    rw [hgame]
    refine ⟨after, by simpa [area?, hid] using hafter, hleads, fun _ id' hid' back hback => ?_⟩
    obtain rfl := Option.some.inj (hid.symm.trans hid')
    exact World.open_of_mem_ways_unlock hexit hback

end

/-- However a game in English has been played, in each direction but back the lines that ask to go
and to open agree on what is there; and what a player has opened, or found open, can be gone through
right away. The way back is open too if it had to be opened. -/
theorem doors_agree {document : Node} {traced : Bool} {o : Outcome}
    (h : ofDocument document .english traced = .ok o) (moves : List Move) {area : Area}
    (harea : (o.game.after moves).area? = some area) {args : List String} {going opening : String}
    (hgoing : Line.ofText going = ⟨"go", args⟩) (hopening : Line.ofText opening = ⟨"open", args⟩)
    (hargs : args ≠ []) (hback : Text.caseFold (Text.unwords args) ≠ "back") :
    (o.game.after moves).DoorsAgree area (Text.unwords args) ((o.game.after moves).execute going)
      ((o.game.after moves).execute opening) ∧
    ∀ e, area.Leads (Text.unwords args) e →
      ((o.game.after moves).execute opening).Says e.unlocked ∨
        ((o.game.after moves).execute opening).Says e.ajar →
      let there := ((o.game.after moves).execute opening).outcome.game.execute going
      there.Says e.passed ∧ there.outcome.game.session.area = some e.target ∧
        (((o.game.after moves).execute opening).Says e.unlocked →
          ∀ back ∈ there.outcome.game.world.ways e.target area.id e.kind, back.isOpen = true) := by
  obtain ⟨w, hw, -⟩ := ofDocument_ok h
  have hload := (World.ofDocument_ok.mp hw).2
  have hg := (ofDocument_spoken h hw).after hload moves
  generalize o.game.after moves = g at *
  have hdoorway := doorway hg.english harea hgoing hopening hargs hback
  refine ⟨hdoorway.agree, fun e he hsaid => ?_⟩
  obtain ⟨after, hafter, hleads, hways⟩ := hdoorway.opened harea he hsaid
  have hopened : (g.execute opening).outcome.game.Spoken document w :=
    hg.move hload (.execute opening)
  obtain ⟨hpassed, hgame⟩ := go_through hopened.english hafter hgoing hargs hback hleads rfl
  refine ⟨hpassed, ?_, fun hunlocked back hmem => ?_⟩
  · rw [hgame]
    exact area_found hopened.tallied.steady.sound.world
      (hopened.tallied.steady.sound.exit_known hafter (Area.exit?_eq_some.mpr hleads))
  · obtain ⟨id, hid, hhere⟩ := Option.bind_eq_some_iff.mp harea
    rw [hgame, (hg.tallied.steady.sound.world.area hhere).1] at hmem
    exact hways hunlocked id hid back hmem

def keyed : List Move := visit ++ [.execute "take key from rack"]

theorem doors_agree_sample : ∃ o area e, ofDocument Sample.document .english false = .ok o ∧
    (o.game.after keyed).area? = some area ∧ area.Leads (Text.unwords ["down"]) e ∧
    (o.game.after keyed).DoorsAgree area (Text.unwords ["down"])
      ((o.game.after keyed).execute "go down") ((o.game.after keyed).execute "open down") ∧
    ((o.game.after keyed).execute "open down").Says e.unlocked ∧
    (((o.game.after keyed).execute "open down").outcome.game.execute
      "go down").outcome.game.session.area = some "cellar" := by
  have hrun : (ofDocument Sample.document .english false).toOption.any (fun o =>
      (o.game.after keyed).area?.any fun area =>
        (area.exit? (Text.unwords ["down"])).any fun e => e.target == "cellar" &&
          ((o.game.after keyed).execute "open down").outcome.seen == [.shown e.unlocked] &&
          ((o.game.after keyed).execute "open down").outcome.fault.isNone) = true := by
    decide +kernel
  obtain ⟨o, ho, hrun⟩ := opens_with hrun
  obtain ⟨area, harea, hrun⟩ := (Option.any_eq_true ..).mp hrun
  obtain ⟨e, he, hrun⟩ := (Option.any_eq_true ..).mp hrun
  simp only [Bool.and_eq_true, beq_iff_eq, Option.isNone_iff_eq_none] at hrun
  obtain ⟨⟨htarget, hseen⟩, hfault⟩ := hrun
  have hleads := Area.exit?_eq_some.mp he
  have hgoing : Line.ofText "go down" = ⟨"go", ["down"]⟩ := by decide +kernel
  have hopening : Line.ofText "open down" = ⟨"open", ["down"]⟩ := by decide +kernel
  obtain ⟨hagree, hthrough⟩ := doors_agree ho keyed harea hgoing hopening (by decide)
    (by decide +kernel)
  obtain ⟨-, hthere, -⟩ := hthrough e hleads (.inl ⟨hseen, hfault⟩)
  exact ⟨o, area, e, ho, harea, hleads, hagree, ⟨hseen, hfault⟩, by rw [hthere, htarget]⟩

end Game

end Fabula

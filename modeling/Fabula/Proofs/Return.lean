import Fabula.Proofs.Doorway
import Fabula.Proofs.Heading

/-!
There and back again. A player who has gone through an exit gets back by the way that leads against
it, if that one is open, whatever has been done since without going anywhere.
-/

set_option autoImplicit false

namespace Fabula

namespace Game

section

variable {g : Game}

theorem filled_text_congr {h : Game} (hsame : h.catalogue = g.catalogue) (key name text : String) :
    h.filled key [(name, .text text)] = g.filled key [(name, .text text)] := by
  simp [filled, message, fields, filler, hsame]

theorem go_unsaid {text : String} {e : Exit} {fault : Fault} (hway : g.Way (Line.ofText text) e)
    (hopen : e.isOpen = true)
    (hsaid : g.filled "moved" [("direction", .text e.direction)] = .error fault) :
    (g.execute text).outcome.game = g ∧ (g.execute text).outcome.fault = some fault := by
  have hdeeds := hway.deeds hopen
  have hfill : (Deed.fill "moved" [("direction", .text e.direction)]).perform g =
      .failed g fault := by
    rw [Deed.perform, hsaid]
    rfl
  rw [execute_game hdeeds, execute_fault hdeeds, performAll_cons, hfill]
  exact ⟨rfl, rfl⟩

theorem go_nowhere {text : String} (hverb : (Line.ofText text).verb = "go")
    (hforward : (Line.ofText text).turnsBack = false)
    (hnone : g.passage? (Line.ofText text) = none) : (g.execute text).outcome.game = g := by
  by_cases hargs : (Line.ofText text).args = []
  · exact execute_unasked (v := .go) (by rw [hverb]; rfl) rfl hargs
  have hback : Text.caseFold (Line.ofText text).argument ≠ "back" := by
    simpa [Line.turnsBack, hverb] using hforward
  have he := g.execute_effect text
  generalize (g.execute text).outcome.game = after at he
  cases he with
  | none => rfl
  | @walk area direction e _ harea hdirection hexit hopen =>
    have hway : g.Way (Line.ofText text) e := ⟨hverb, hargs, area, direction, harea,
      direction?_eq_some.mp hdirection, Area.exit?_eq_some.mp hexit⟩
    cases hnone.symm.trans (passage?_eq_some.mpr ⟨hway, hopen⟩)
  | walkBack _ _ _ _ _ hturn => exact absurd hturn hback
  | forget _ hturn => exact absurd hturn hback
  | restart hl | quit hl | drop hl | take hl | unlock hl => simp [hverb] at hl

def Passes (g : Game) (lines : Lines) (e : Exit) : Prop :=
  g.Walks (.tick lines) e ∧ (g.tick lines).outcome.fault = none

theorem heard_tick {lines : Lines} {l : Line} (h : g.heard? (.tick lines) = some l) :
    ∃ text rest, lines = some text :: rest ∧ l = Line.ofText text ∧
      g.session.state = .awaitingInput := by
  match lines, h with
  | some text :: rest, h =>
    rw [heard?] at h
    split at h
    · next hstate => exact ⟨text, rest, rfl, (Option.some.inj h).symm, hstate⟩
    · cases h

theorem Passes.move {lines : Lines} {e : Exit} (h : g.Passes lines e)
    (hforward : g.turnsBack (.tick lines) = false) : g.move (.tick lines) = g.walked e := by
  obtain ⟨⟨l, hheard, hway, hopen⟩, hfault⟩ := h
  obtain ⟨text, rest, rfl, rfl, hstate⟩ := heard_tick hheard
  have hback : (Line.ofText text).turnsBack = false := by
    simpa [turnsBack, hheard] using hforward
  rw [tick_text hstate] at hfault
  rw [Game.move, tick_text hstate]
  cases hsaid : g.filled "moved" [("direction", .text e.direction)] with
  | error fault => cases (go_unsaid hway hopen hsaid).2.symm.trans hfault
  | ok said =>
    rw [(go_said hway hopen hsaid).2, gone, passage?_eq_some.mpr ⟨hway, hopen⟩, hback]
    rfl

/-- A move that is no new start, does not ask to go back, and takes the player nowhere. -/
structure Lingers (g : Game) (m : Move) : Prop where
  restarts : g.restarts m = false
  turnsBack : g.turnsBack m = false
  passes : ∀ lines e, m = .tick lines → ¬g.Passes lines e

def Lingering : Game → List Move → Prop
  | _, [] => True
  | g, m :: moves => g.Lingers m ∧ Lingering (g.move m) moves

/-- While there is a direction to go back against, no cue leads the player away. -/
theorem Composed.unheard_area {w : World} (hg : g.Composed w) (hheading : g.session.heading.isSome)
    {lines : Lines} (h : g.heard? (.tick lines) = none) :
    (g.move (.tick lines)).session.area = g.session.area := by
  obtain ⟨hover, hqueue, -⟩ := hg.poised.away hheading
  have ht := g.tick_turned lines
  rw [Game.move]
  generalize (g.tick lines).outcome.game = after at ht
  cases ht with
  | nothing => rfl
  | answer => rfl
  | @queued cue queue _ hq hp =>
    have htargets : cue.targets = [] := hqueue cue (by simp [hq])
    cases hp with
    | enter => simp [Cue.targets] at htargets
    | nothing | finish | suspend => rfl
  | scripted hr => simp [hover] at hr
  | line hstate hlines =>
    subst hlines
    simp [heard?, hstate] at h

theorem Lingers.stays {w : World} {m : Move} (hm : m.isPlayed = true) (h : g.Lingers m)
    (hg : g.Composed w) (hheading : g.session.heading.isSome) :
    (g.move m).session.area = g.session.area ∧
      (g.move m).session.heading = g.session.heading := by
  cases m with
  | execute text => cases hm
  | reset => cases h.restarts
  | tick lines =>
    cases hheard : g.heard? (.tick lines) with
    | none =>
      exact ⟨hg.unheard_area hheading hheard, turned_heading (g.tick_turned lines) hheard⟩
    | some l =>
      obtain ⟨text, rest, rfl, rfl, hstate⟩ := heard_tick hheard
      have hover : g.startsOver text = false := by simpa [Game.restarts, hstate] using h.restarts
      have hforward : (Line.ofText text).turnsBack = false := by
        simpa [Game.turnsBack, hheard] using h.turnsBack
      rw [Game.move, tick_text hstate]
      by_cases hgo : (Line.ofText text).verb = "go"
      · -- The line goes nowhere, or it breaks off before it goes.
        have hsame : (g.execute text).outcome.game = g := by
          cases hpassage : g.passage? (Line.ofText text) with
          | none => exact go_nowhere hgo hforward hpassage
          | some e =>
            obtain ⟨hway, hopen⟩ := passage?_eq_some.mp hpassage
            cases hsaid : g.filled "moved" [("direction", .text e.direction)] with
            | error fault => exact (go_unsaid hway hopen hsaid).1
            | ok said =>
              refine absurd ⟨⟨_, hheard, hway, hopen⟩, ?_⟩ (h.passes _ e rfl)
              rw [tick_text hstate]
              exact (go_said hway hopen hsaid).1.fault
        rw [hsame]
        exact ⟨rfl, rfl⟩
      · have he := g.execute_effect text
        by_cases hrestart : (Line.ofText text).verb = "restart"
        · generalize (g.execute text).outcome.game = after at he
          cases he with
          | none => exact ⟨rfl, rfl⟩
          | restart hl hm => simp [startsOver, hl, hm] at hover
          | quit hl | drop hl | take hl | walk hl | walkBack hl | forget hl | unlock hl =>
            simp [hrestart] at hl
        · exact he.stays hgo hrestart

structure Homeward (w : World) (direction : String) (back : Exit) (g : Game) : Prop where
  composed : g.Composed w
  steady : g.Steady
  against : g.session.heading.bind opposite? = some direction
  leads : ∃ area, g.area? = some area ∧ area.Leads direction back
  isOpen : back.isOpen = true

section

variable {w : World} {direction : String} {back : Exit}

theorem Homeward.move {m : Move} (hm : m.isPlayed = true) (hl : g.Lingers m)
    (hg : g.Homeward w direction back) : (g.move m).Homeward w direction back := by
  have hheading : g.session.heading.isSome := by
    cases hnone : g.session.heading with
    | none => simpa [hnone] using hg.against
    | some last => rfl
  obtain ⟨hstays, hkept⟩ := hl.stays hm hg.composed hheading
  obtain ⟨area, harea, hleads⟩ := hg.leads
  obtain ⟨id, hid, hhere⟩ := Option.bind_eq_some_iff.mp harea
  obtain ⟨i, hi, he⟩ := Area.leads_iff.mp hleads
  -- Exits only come open, and the one back is open already.
  obtain ⟨after, hafter, hback⟩ := World.leads_changed (exit?_move hl.restarts id)
    (fun j c => by split <;> rfl) hhere hi he
  refine ⟨hg.composed.move hm, hg.steady.move m, by rw [hkept, hg.against],
    ⟨after, by simpa [area?, hstays, hid] using hafter, ?_⟩, hg.isOpen⟩
  simpa [Exit.opened_of_open hg.isOpen] using hback

theorem Homeward.after {later : List Move} (hm : ∀ m ∈ later, m.isPlayed = true)
    (hl : g.Lingering later) (hg : g.Homeward w direction back) :
    (g.after later).Homeward w direction back := by
  induction later generalizing g with
  | nil => exact hg
  | cons m later ih =>
    rw [List.forall_mem_cons] at hm
    exact ih hm.2 hl.2 (hg.move hm.1 hl.1)

theorem Homeward.returns (hg : g.Homeward w direction back) {text said : String}
    (htext : (Line.ofText text).turnsBack = true)
    (hsaid : g.filled "moved" [("direction", .text back.direction)] = .ok said) :
    (g.execute text).Says said ∧
      (g.execute text).outcome.game.session.area = some back.target ∧
      (g.execute text).outcome.game.session.heading = none := by
  obtain ⟨area, harea, hleads⟩ := hg.leads
  obtain ⟨last, hlast, hopposite⟩ := Option.bind_eq_some_iff.mp hg.against
  have hturn : (Line.ofText text).verb = "go" ∧
      Text.caseFold (Line.ofText text).argument = "back" := by
    simpa [Line.turnsBack] using htext
  have hway : g.Way (Line.ofText text) back := by
    refine ⟨hturn.1, fun hnone => ?_, area, direction, harea, .back hturn.2 hlast hopposite, hleads⟩
    have hword : Text.caseFold "" ≠ "back" := by decide +kernel
    exact hword (by simpa [Line.argument, hnone, Text.unwords] using hturn.2)
  obtain ⟨hmoved, hgame⟩ := go_said hway hg.isOpen hsaid
  refine ⟨hmoved, ?_, by rw [hgame, gone_heading, htext, if_pos rfl]⟩
  rw [hgame, hg.steady.sound.gone_area, passage?_eq_some.mpr ⟨hway, hg.isOpen⟩]
  rfl

end

/-- A player has gone from one area to another, from where the way against the direction taken leads
back and is open, and has lingered there since. -/
structure Excursion (g : Game) (home : String) (lines : Lines) (later : List Move) (back : Exit) :
    Prop where
  start : g.session.area = some home
  leads : ∃ e direction there, g.Passes lines e ∧ opposite? e.direction = some direction ∧
    g.world.area? e.target = some there ∧ there.Leads direction back
  target : back.target = home
  isOpen : back.isOpen = true
  lingers : (g.move (.tick lines)).Lingering later
  awaiting : ((g.move (.tick lines)).after later).session.state = .awaitingInput

theorem Excursion.homeward {w : World} {home : String} {lines : Lines} {later : List Move}
    {back : Exit} (h : g.Excursion home lines later back) (hc : g.Composed w) (hs : g.Steady)
    (hforward : g.turnsBack (.tick lines) = false) :
    ∃ direction, (g.move (.tick lines)).Homeward w direction back := by
  obtain ⟨e, direction, there, hpasses, hopposite, hthere, hleads⟩ := h.leads
  have hwalked := hpasses.move hforward
  have harea : (g.walked e).session.area = some there.id := by
    simp [walked, changeSession, hthere]
  refine ⟨direction, hc.move rfl, hs.move _, ?_, ⟨there, ?_, hleads⟩, h.isOpen⟩
  · rw [hwalked]
    exact hopposite
  · rw [hwalked, area?, harea, Option.bind_some, (hs.sound.world.area hthere).1]
    exact hthere

end

def lingers? : Game → List Move → Bool
  | _, [] => true
  | g, m :: moves => !g.restarts m && !g.turnsBack m &&
      (g.heard? m).all (fun l => (g.passage? l).isNone) && lingers? (g.move m) moves

theorem lingering_of_lingers? {g : Game} {moves : List Move} (h : g.lingers? moves = true) :
    g.Lingering moves := by
  induction moves generalizing g with
  | nil => trivial
  | cons m moves ih =>
    simp only [lingers?, Bool.and_eq_true, Bool.not_eq_true'] at h
    obtain ⟨⟨⟨hrestarts, hturns⟩, hnowhere⟩, hlater⟩ := h
    refine ⟨⟨hrestarts, hturns, ?_⟩, ih hlater⟩
    rintro lines e rfl ⟨⟨l, hheard, hway, hopen⟩, -⟩
    simp [hheard, passage?_eq_some.mpr ⟨hway, hopen⟩] at hnowhere

def wayBack? (g : Game) (lines : Lines) : Option Exit := do
  let l ← g.heard? (.tick lines)
  let e ← g.passage? l
  let direction ← opposite? e.direction
  let there ← g.world.area? e.target
  there.exit? direction

def excursion? (g : Game) (home : String) (lines : Lines) (later : List Move) : Option Exit :=
  (g.wayBack? lines).filter fun back =>
    g.session.area == some home && (g.tick lines).outcome.fault.isNone && back.target == home &&
      back.isOpen && (g.move (.tick lines)).lingers? later &&
      ((g.move (.tick lines)).after later).session.state == .awaitingInput

theorem excursion_of_excursion? {g : Game} {home : String} {lines : Lines} {later : List Move}
    {back : Exit} (h : g.excursion? home lines later = some back) :
    g.Excursion home lines later back := by
  obtain ⟨hback, h⟩ := (Option.filter_eq_some_iff ..).mp h
  obtain ⟨l, hheard, hback⟩ := Option.bind_eq_some_iff.mp hback
  obtain ⟨e, he, hback⟩ := Option.bind_eq_some_iff.mp hback
  obtain ⟨direction, hopposite, hback⟩ := Option.bind_eq_some_iff.mp hback
  obtain ⟨there, hthere, hback⟩ := Option.bind_eq_some_iff.mp hback
  simp only [Bool.and_eq_true, beq_iff_eq, Option.isNone_iff_eq_none] at h
  obtain ⟨⟨⟨⟨⟨hstart, hfault⟩, htarget⟩, hopen⟩, hlingers⟩, hstate⟩ := h
  exact {
    start := hstart
    leads := ⟨e, direction, there, ⟨⟨l, hheard, passage?_eq_some.mp he⟩, hfault⟩, hopposite, hthere,
      Area.exit?_eq_some.mp hback⟩
    target := htarget
    isOpen := hopen
    lingers := lingering_of_lingers? hlingers
    awaiting := hstate }

/-- However a game has been played, a player who goes somewhere and stays there gets back by asking
to go back, if the way back leads home and is open, and its direction can be said in the words of
the catalogue. After that no direction is remembered. -/
theorem there_and_back {document : Node} {catalogue : Catalogue} {traced : Bool} {o : Outcome}
    (h : ofDocument document catalogue traced = .ok o) {moves later : List Move}
    (hm : ∀ m ∈ moves, m.isPlayed = true) (hlater : ∀ m ∈ later, m.isPlayed = true)
    {home : String} {lines : Lines} {back : Exit}
    (htrip : (o.game.after moves).Excursion home lines later back)
    (hforward : (o.game.after moves).turnsBack (.tick lines) = false) {said : String}
    (hsaid : o.game.filled "moved" [("direction", .text back.direction)] = .ok said)
    {text : String} (htext : (Line.ofText text).turnsBack = true) (rest : Lines) :
    let there := o.game.after (moves ++ .tick lines :: later)
    (there.tick (some text :: rest)).outcome.seen = [.asked catalogue.prompt, .shown said] ∧
    (there.tick (some text :: rest)).outcome.fault = none ∧
    (there.tick (some text :: rest)).outcome.game.session.area = some home ∧
    (there.tick (some text :: rest)).outcome.game.session.heading = none := by
  intro there
  obtain ⟨w, hcomposed⟩ := ofDocument_composed h
  have hsteady : (o.game.after moves).Steady :=
    after_keeps (fun _ m hg => hg.move m) (ofDocument_steady h) moves
  have hstory : o.game.SameStory there :=
    after_keeps (fun _ m hg => hg.trans (move_sameStory _ m)) (.refl _) _
  have hthere : there = ((o.game.after moves).move (.tick lines)).after later :=
    o.game.after_append moves (.tick lines :: later)
  obtain ⟨direction, hhomeward⟩ := htrip.homeward (hcomposed.after hm) hsteady hforward
  have hback := hhomeward.after hlater htrip.lingers
  have hstate := htrip.awaiting
  rw [← hthere] at hback hstate
  obtain ⟨hmoved, harea, hheading⟩ := hback.returns htext
    ((filled_text_congr hstory.catalogue "moved" "direction" back.direction).trans hsaid)
  have hprompt : there.catalogue.prompt = catalogue.prompt := by
    obtain ⟨w', -, hgame⟩ := ofDocument_ok h
    rw [hstory.catalogue, hgame]
  rw [tick_text hstate]
  refine ⟨?_, hmoved.fault, by rw [harea, htrip.target], hheading⟩
  rw [← hprompt, ← hmoved.seen]
  rfl

def pastime : List Move := [.tick [some "take lantern"], .tick [some "go down"],
  .tick [some "quit"], .tick [], .tick [some "2"], .tick []]

theorem there_and_back_sample : ∃ o back, ofDocument Sample.document .english false = .ok o ∧
    (o.game.after arrival).Excursion "yard" [some "go north"] pastime back ∧
    let there := o.game.after (arrival ++ .tick [some "go north"] :: pastime)
    (there.tick [some "Go BACK"]).outcome.seen = [.asked "> ", .shown back.passed] ∧
    (there.tick [some "Go BACK"]).outcome.game.session.area = some "yard" := by
  have hrun : (ofDocument Sample.document .english false).toOption.any (fun o =>
      !(o.game.after arrival).turnsBack (.tick [some "go north"]) &&
        ((o.game.after arrival).excursion? "yard" [some "go north"] pastime).isSome) = true := by
    decide +kernel
  obtain ⟨o, ho, hrun⟩ := opens_with hrun
  simp only [Bool.and_eq_true, Bool.not_eq_true'] at hrun
  obtain ⟨hforward, htrip⟩ := hrun
  obtain ⟨back, htrip⟩ := Option.isSome_iff_exists.mp htrip
  have hexcursion := excursion_of_excursion? htrip
  have henglish : o.game.catalogue = .english := by
    obtain ⟨w, -, hgame⟩ := ofDocument_ok ho
    rw [hgame]
  have htext : (Line.ofText "Go BACK").turnsBack = true := by decide +kernel
  obtain ⟨hseen, -, harea, -⟩ :=
    there_and_back ho (by decide) (by decide) hexcursion hforward (filled_passed henglish back)
      htext []
  exact ⟨o, back, ho, hexcursion, hseen, harea⟩

def terse : Catalogue := ("moved", "{direction[2]}") :: Catalogue.english

def inside : List Move := arrival ++ [.tick [some "go north"]]

def atCellar : List Move :=
  inside ++ [.tick [some "take key from rack"], .tick [some "open down"]]

/-- Whoever went back has no direction to go back against. And where there is no third letter to be
said, nobody gets back. -/
theorem not_back_again :
    (∃ o back, ofDocument Sample.document .english false = .ok o ∧
      (∀ m ∈ inside, m.isPlayed = true) ∧
      (o.game.after inside).Excursion "hall" [some "go back"] [] back ∧
      ((o.game.after (inside ++ [.tick [some "go back"]])).tick
        [some "go back"]).outcome.game.session.area ≠ some "hall") ∧
    ∃ o back, ofDocument Sample.document terse false = .ok o ∧
      (∀ m ∈ atCellar, m.isPlayed = true) ∧
      (o.game.after atCellar).Excursion "hall" [some "go down"] [] back ∧
      ((o.game.after (atCellar ++ [.tick [some "go down"]])).tick
        [some "go back"]).outcome.game.session.area ≠ some "hall" := by
  have htwice : (ofDocument Sample.document .english false).toOption.any (fun o =>
      ((o.game.after inside).excursion? "hall" [some "go back"] []).isSome &&
        ((o.game.after (inside ++ [.tick [some "go back"]])).tick
          [some "go back"]).outcome.game.session.area != some "hall") = true := by decide +kernel
  have hterse : (ofDocument Sample.document terse false).toOption.any (fun o =>
      ((o.game.after atCellar).excursion? "hall" [some "go down"] []).isSome &&
        ((o.game.after (atCellar ++ [.tick [some "go down"]])).tick
          [some "go back"]).outcome.game.session.area != some "hall") = true := by decide +kernel
  obtain ⟨o, ho, hrun⟩ := opens_with htwice
  obtain ⟨o', ho', hrun'⟩ := opens_with hterse
  simp only [Bool.and_eq_true, bne_iff_ne, Option.isSome_iff_exists] at hrun hrun'
  obtain ⟨⟨back, htrip⟩, haway⟩ := hrun
  obtain ⟨⟨back', htrip'⟩, haway'⟩ := hrun'
  exact ⟨⟨o, back, ho, by decide, excursion_of_excursion? htrip, haway⟩,
    o', back', ho', by decide, excursion_of_excursion? htrip', haway'⟩

end Game

end Fabula

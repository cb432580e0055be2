import Fabula.Catalogue.English
import Fabula.Proofs.Integrity
import Fabula.Proofs.Recital
import Fabula.Proofs.Session
import Fabula.Proofs.Speech

set_option autoImplicit false

namespace Fabula

theorem Part.numbered_seen (n : Nat) (texts : List String) :
    (numbered n texts).filter Event.isSeen = numbered n texts := by
  induction texts generalizing n with
  | nil => rfl
  | cons text texts ih => rw [numbered, List.filter_cons_of_pos rfl, ih]

namespace Game

def openFor : Nat → Game → Lines → Turn
  | 0, g, lines => ⟨.done g, lines, true⟩
  | fuel + 1, g, lines =>
    if g.session.state = .awaitingInput then ⟨.done g, lines, true⟩
    else (g.tick lines).andThen (openFor fuel)

/-- The turns of a game render a recital, up to where the game rests or no line is left. By the
area it is in, `rest` gives the game at rest. -/
inductive Renders (rest : Option String → Game) : Game → List String → Recital → Prop where
  | rested (area : Option String) (lines : List String) :
      Renders rest (rest area) lines ⟨area, [], lines, false⟩
  | stopped {g : Game} {cue : Cue} : g.session.finished = false → g.session.pending = some cue →
      g.catalogue.prompt = "> " → Renders rest g [] ⟨g.session.area, [.asked "> "], [], true⟩
  | turn {g : Game} {o : Outcome} {lines unread : List String} {alive : Bool} {r : Recital} :
      g.session.state ≠ .awaitingInput → g.tick (lines.map some) = ⟨o, unread.map some, alive⟩ →
      o.fault = none → Renders rest o.game unread r → Renders rest g lines (r.after o.seen)

theorem Renders.andThen {rest rest' : Option String → Game} {g : Game} {lines : List String}
    {r : Recital} (h : Renders rest g lines r) {next : Part}
    (hnext : ∀ area unread, Renders rest' (rest area) unread (next area unread)) :
    Renders rest' g lines (r.andThen next) := by
  induction h with
  | rested => simpa [Recital.andThen, Recital.after] using hnext _ _
  | stopped hf hp hprompt => exact .stopped hf hp hprompt
  | turn hstate htick hfault _ ih =>
    rw [Recital.after_andThen]
    exact .turn hstate htick hfault ih

structure Completes (rest : Option String → Game) (o : Outcome) (unread : List String)
    (r : Recital) : Prop where
  fault : o.fault = none
  later : ∃ s, Renders rest o.game unread s ∧ r = s.after o.seen

theorem Completes.turn {rest : Option String → Game} {g : Game} {o : Outcome}
    {lines unread : List String} {alive : Bool} {r : Recital} (h : Completes rest o unread r)
    (hstate : g.session.state ≠ .awaitingInput)
    (htick : g.tick (lines.map some) = ⟨o, unread.map some, alive⟩) : Renders rest g lines r := by
  obtain ⟨s, hs, rfl⟩ := h.later
  exact .turn hstate htick h.fault hs

/-- A game in a world that has nothing to do before the next cue. -/
structure Idle (w : World) (g : Game) : Prop where
  world : g.world = w
  catalogue : g.catalogue = .english
  finished : g.session.finished = false
  pending : g.session.pending = none
  queue : g.session.queue = []

def placed (g : Game) (area : Option String) : Game := g.changeSession fun s => { s with area }

theorem Idle.placed {w : World} {g : Game} (hg : g.Idle w) (area : Option String) :
    (g.placed area).Idle w :=
  ⟨hg.world, hg.catalogue, hg.finished, hg.pending, hg.queue⟩

def suspended (g : Game) (cue : Cue) : Game :=
  g.changeSession fun s => { s with pending := some cue }

theorem Idle.perform_offer {w : World} {g : Game} (hg : g.Idle w) (i : Nat) (text : String) :
    (Deed.offer i text).perform g = g.display (Nat.repr i ++ " - " ++ text) := by
  have ht : g.catalogue.optionTemplate = "{index} - {text}" := by rw [hg.catalogue]; rfl
  rw [Deed.perform, ht, render_option]
  rfl

theorem Idle.performAll_offers {w : World} {g : Game} (hg : g.Idle w)
    (options : List (String × Cue)) (n : Nat) :
    performAll (options.mapIdx fun i option => .offer (i + n) option.1) g =
      ⟨g, Part.numbered n (options.map (·.1)), none⟩ := by
  induction options generalizing n with
  | nil => rfl
  | cons option options ih =>
    have hrest := ih (n + 1)
    simp only [List.mapIdx_cons, List.map_cons, performAll_cons, Nat.zero_add, hg.perform_offer,
      Part.numbered]
    have hshift : (fun (i : Nat) (option : String × Cue) => Deed.offer (i + 1 + n) option.1) =
        fun i option => .offer (i + (n + 1)) option.1 := by
      funext i option
      congr 1
      omega
    rw [hshift, Outcome.next, display]
    simp [hrest]

theorem Idle.play_choose {w : World} {g : Game} (hg : g.Idle w) (question : String)
    (options : List (String × Cue)) : (Cue.choose question options).play g =
      ⟨g.suspended (.choose question options),
        .shown question :: Part.numbered 1 (options.map (·.1)) ++
          if g.traced then [.traced .suspended "suspended on SelectCommand"] else [], none⟩ := by
  have hall : performAll (Cue.choose question options).deeds g =
      ⟨g, .shown question :: Part.numbered 1 (options.map (·.1)), none⟩ := by
    rw [Cue.deeds, performAll_cons, Deed.perform, Outcome.next, display]
    simp [hg.performAll_offers]
  rw [Cue.play, hall]
  rfl

theorem Idle.tick_queued {w : World} {g : Game} (hg : g.Idle w) (cue : Cue) (lines : Lines) :
    (g.changeSession (·.push cue)).session.state ≠ .awaitingInput ∧
      (g.changeSession (·.push cue)).tick lines = ⟨cue.play g, lines, true⟩ := by
  have hback : ((g.changeSession (·.push cue)).changeSession fun s => { s with queue := [] }) =
      g := by
    obtain ⟨document, world, session, catalogue, traced⟩ := g
    have hq : session.queue = [] := hg.queue
    simp only [changeSession, Session.push, ← hq]
  have hf : (g.changeSession (·.push cue)).session.finished = false := hg.finished
  have hp : (g.changeSession (·.push cue)).session.pending = none := hg.pending
  have hq : (g.changeSession (·.push cue)).session.queue = [cue] := by
    simp [changeSession, Session.push, hg.queue]
  constructor
  · simp [Session.state, hf, hp, hq]
  · rw [Game.tick_queued hf hp hq, hback]

theorem Idle.suspended_waits {w : World} {g : Game} (hg : g.Idle w) (cue : Cue) :
    (g.suspended cue).session.state ≠ .awaitingInput := by
  simp [Session.state, suspended, changeSession, hg.finished]

theorem Idle.tick_suspended {w : World} {g : Game} (hg : g.Idle w) (cue : Cue) (line : String)
    (lines : Lines) : (g.suspended cue).tick (some line :: lines) =
      ⟨⟨(answer cue (g.suspended cue) line).game, [.asked "> "], none⟩, lines, true⟩ := by
  have hf : (g.suspended cue).session.finished = false := hg.finished
  have hp : (g.suspended cue).session.pending = some cue := rfl
  have hprompt : (g.suspended cue).catalogue.prompt = "> " := by
    rw [show (g.suspended cue).catalogue = .english from hg.catalogue]
    rfl
  simp only [tick, hf, hp, reading, hprompt, answer, Bool.false_eq_true, if_false]
  cases cue.reply? line <;> rfl

theorem Idle.renders_unanswered {w : World} {g : Game} (hg : g.Idle w) {cue : Cue} {line : String}
    (h : cue.reply? line = none) {rest : Option String → Game} {lines : List String} {r : Recital}
    (hr : Renders rest (g.suspended cue) lines r) :
    Renders rest (g.suspended cue) (line :: lines) (r.after [.asked "> "]) := by
  have htick := hg.tick_suspended cue line (lines.map some)
  rw [answer, h] at htick
  exact .turn (o := ⟨g.suspended cue, [.asked "> "], none⟩) (hg.suspended_waits cue) htick rfl hr

theorem Idle.tick_answered {w : World} {g : Game} (hg : g.Idle w) {cue follow : Cue}
    {line : String} (h : cue.reply? line = some follow) (lines : Lines) :
    (g.suspended cue).tick (some line :: lines) =
      ⟨⟨g.changeSession (·.push follow), [.asked "> "], none⟩, lines, true⟩ := by
  have hback : ((g.suspended cue).changeSession fun s => { s with pending := none }.push follow) =
      g.changeSession (·.push follow) := by
    obtain ⟨document, world, session, catalogue, traced⟩ := g
    have hnone : session.pending = none := hg.pending
    simp only [suspended, changeSession, Session.push, ← hnone]
  rw [hg.tick_suspended cue line lines, answer, h]
  simp only [Outcome.done, hback]

/-- An answer takes one turn, and the cue that it leads to is played in the next one. -/
theorem Idle.renders_answered {w : World} {g : Game} (hg : g.Idle w) {cue follow : Cue}
    {line : String} (h : cue.reply? line = some follow) {rest : Option String → Game}
    {lines : List String} {r : Recital} (hr : Completes rest (follow.play g) lines r) :
    Renders rest (g.suspended cue) (line :: lines) (r.after [.asked "> "]) := by
  have htick := hg.tick_answered h (lines.map some)
  obtain ⟨hqueued, hplay⟩ := hg.tick_queued follow (lines.map some)
  exact .turn (o := ⟨g.changeSession (·.push follow), [.asked "> "], none⟩)
    (hg.suspended_waits cue) htick rfl (hr.turn hqueued hplay)

end Game

namespace Cue

open Game

def Recites (w : World) (cue : Cue) (p : Part) : Prop :=
  ∀ g : Game, g.Idle w → ∀ lines, Completes g.placed (cue.play g) lines (p g.session.area lines)

theorem recites_narrate (w : World) (text : String) :
    Recites w (.narrate text) fun area lines => ⟨area, [.shown text], lines, false⟩ := by
  intro g _ lines
  exact ⟨rfl, _, .rested g.session.area lines, rfl⟩

theorem recites_pass (w : World) : Recites w .pass Part.pause := by
  intro g _ lines
  exact ⟨rfl, _, .rested g.session.area lines, rfl⟩

theorem recites_enter {w : World} (hw : w.Sound) {id : String} (hid : id ∈ w.areas.keys) :
    Recites w (.enter id) fun _ lines => ⟨some id, [], lines, false⟩ := by
  intro g hg lines
  have harea : (g.world.area? id |>.map (·.id)) = some id := by
    obtain ⟨a, ha⟩ := Option.isSome_iff_exists.mp (Table.get?_isSome.mpr hid)
    rw [hg.world, show w.area? id = some a from ha, Option.map_some, (hw.area ha).1]
  have hplay : (Cue.enter id).play g =
      ⟨g.placed (some id),
        if g.traced then [.traced .entered ("enter area " ++ id)] else [], none⟩ := by
    simp [play, deeds, completes, Deed.perform, harea, noteText, trace, Outcome.next, Outcome.done,
      Game.placed, changeSession]
  have hseen : ((Cue.enter id).play g).seen = [] := by
    rw [hplay]
    cases g.traced <;> rfl
  refine ⟨by rw [hplay], ⟨some id, [], lines, false⟩, ?_, by rw [hseen]; rfl⟩
  rw [hplay]
  exact .rested (some id) lines

theorem option?_branch? (answer : String) (nodes : List Node) (n : Nat) :
    (option? answer n (Node.optionCues nodes) = none ∧
      Part.branch? answer n (Node.optionParts nodes) = none) ∨
    ∃ m ∈ nodes,
      option? answer n (Node.optionCues nodes) = some (Node.firstCue m.children) ∧
      Part.branch? answer n (Node.optionParts nodes) = some (Node.firstPart m.children) := by
  induction nodes generalizing n with
  | nil => exact .inl ⟨rfl, rfl⟩
  | cons m nodes ih =>
    rw [Node.optionCues, Node.optionParts, List.map_cons, List.map_cons, option?, Part.branch?]
    by_cases ha : answer = Nat.repr n ∨ answer = m.caption
    · exact .inr ⟨m, by simp, by simp [ha], by simp [ha]⟩
    · rw [if_neg ha, if_neg ha]
      rcases ih (n + 1) with hnone | ⟨other, hmem, hsome⟩
      · exact .inl hnone
      · exact .inr ⟨other, List.mem_cons_of_mem _ hmem, hsome⟩

theorem renders_ask {w : World} {g : Game} (hg : g.Idle w) {question : String}
    {nodes : List Node}
    (h : ∀ m ∈ nodes, Recites w (Node.firstCue m.children) (Node.firstPart m.children))
    (lines : List String) :
    Renders g.placed (g.suspended (.choose question (Node.optionCues nodes))) lines
      (Part.ask (Node.optionParts nodes) g.session.area lines) := by
  induction lines with
  | nil =>
    refine .stopped hg.finished rfl ?_
    rw [show (g.suspended _).catalogue = .english from hg.catalogue]
    rfl
  | cons line lines ih =>
    rw [Part.ask]
    rcases option?_branch? (Text.trim line) nodes 1 with ⟨ho, hb⟩ | ⟨m, hm, ho, hb⟩
    · rw [hb]
      exact hg.renders_unanswered (by rw [reply?, ho]) ih
    · rw [hb]
      exact hg.renders_answered (by rw [reply?, ho]) (h m hm g hg lines)

theorem recites_choose {w : World} {question : String} {nodes : List Node}
    (h : ∀ m ∈ nodes, Recites w (Node.firstCue m.children) (Node.firstPart m.children)) :
    Recites w (.choose question (Node.optionCues nodes))
      (Part.choice question (Node.optionParts nodes)) := by
  intro g hg lines
  have hplay := hg.play_choose question (Node.optionCues nodes)
  have htexts : (Node.optionCues nodes).map (·.1) = (Node.optionParts nodes).map (·.1) := by
    simp [Node.optionCues, Node.optionParts]
  have hseen : ((Cue.choose question (Node.optionCues nodes)).play g).seen =
      .shown question :: Part.numbered 1 ((Node.optionParts nodes).map (·.1)) := by
    rw [hplay, Outcome.seen, List.cons_append, List.filter_cons_of_pos rfl, List.filter_append,
      Part.numbered_seen, htexts]
    cases g.traced <;> simp
  refine ⟨by rw [hplay], _, by rw [hplay]; exact renders_ask hg h lines, ?_⟩
  rw [hseen, Part.choice]

end Cue

namespace Node

/-- The part of an option recites its cue, if that is so of all nodes below the option. -/
theorem firstCue_recites {w : World} {nodes : List Node}
    (h : ∀ n ∈ nodes, ∀ cue, n.cue? = some cue → cue.Within w.areas.keys →
      ∃ p, n.part? = some p ∧ cue.Recites w p)
    (hwithin : (firstCue nodes).Within w.areas.keys) :
    (firstCue nodes).Recites w (firstPart nodes) := by
  induction nodes with
  | nil =>
    simp only [firstCue, firstPart]
    exact Cue.recites_pass w
  | cons n nodes ih =>
    have hsame := n.part?_isSome
    cases hcue : n.cue? with
    | none =>
      have hpart : n.part? = none := by simpa [hcue] using hsame
      simp only [firstCue, firstPart, hcue, hpart] at hwithin ⊢
      exact ih (fun m hm => h m (List.mem_cons_of_mem _ hm)) hwithin
    | some cue =>
      simp only [firstCue, hcue] at hwithin
      obtain ⟨p, hpart, hp⟩ := h n (by simp) cue hcue hwithin
      simpa only [firstCue, firstPart, hcue, hpart] using hp

/-- Every cue that a node writes is played as the node is recited. -/
theorem cue_recites {w : World} (hw : w.Sound) (n : Node) : ∀ cue, n.cue? = some cue →
    cue.Within w.areas.keys → ∃ p, n.part? = some p ∧ cue.Recites w p := by
  induction n using inductTwo with
  | step n ih =>
    intro cue hcue hwithin
    rw [cue?_eq] at hcue
    rw [part?_eq]
    by_cases htext : n.tagged "text" = true
    · simp only [htext, if_true, Option.some.injEq] at hcue
      subst hcue
      exact ⟨_, by simp [htext], Cue.recites_narrate w n.value⟩
    by_cases henter : n.tagged "enter" = true
    · simp only [htext, henter, if_true, Bool.false_eq_true, if_false, Option.some.injEq] at hcue
      subst hcue
      exact ⟨_, by simp [htext, henter],
        Cue.recites_enter hw (hwithin _ (by simp [Cue.targets]))⟩
    by_cases hpass : n.tagged "continue" = true
    · simp only [htext, henter, hpass, if_true, Bool.false_eq_true, if_false,
        Option.some.injEq] at hcue
      subst hcue
      exact ⟨_, by simp [htext, henter, hpass], Cue.recites_pass w⟩
    by_cases hselect : n.tagged "select" = true
    · simp only [htext, henter, hpass, hselect, if_true, Bool.false_eq_true, if_false,
        Option.some.injEq, options_eq] at hcue
      subst hcue
      refine ⟨Part.choice n.caption (branches n.children), by simp [htext, henter, hpass, hselect],
        ?_⟩
      rw [branches_eq]
      refine Cue.recites_choose fun option hoption => ?_
      have hmem := (List.mem_filter.mp hoption).1
      refine firstCue_recites (ih option hmem).2 fun id hid => hwithin id ?_
      rw [Cue.targets, Cue.optionTargets_eq, List.mem_flatMap]
      exact ⟨_, List.mem_map.mpr ⟨option, hoption, rfl⟩, hid⟩
    · simp [htext, henter, hpass, hselect] at hcue

end Node

theorem Scene.cues_ofNode (n : Node) : (Scene.ofNode n).cues = n.children.filterMap Node.cue? := by
  -- What is called `id` has no tag that writes a cue.
  have hid : ∀ child : Node, child.name = "id" → child.cue? = none := by
    intro child hname
    have hlower : Text.lowerCase "id" = "id" := by decide +kernel
    simp [Node.cue?_eq, Node.tagged, hname, hlower]
  change (n.children.filter (·.name != "id")).filterMap Node.cue? = _
  generalize n.children = nodes
  induction nodes with
  | nil => rfl
  | cons child nodes ih =>
    by_cases hname : child.name = "id"
    · rw [List.filter_cons_of_neg (by simpa using hname),
        List.filterMap_cons_none (hid child hname), ih]
    · rw [List.filter_cons_of_pos (by simpa using hname), List.filterMap_cons, List.filterMap_cons,
        ih]

namespace Game

theorem Idle.tick_scripted {w : World} {g : Game} (hg : g.Idle w) {cue : Cue} {cues : List Cue}
    (h : g.session.remaining = cue :: cues) (lines : Lines) :
    g.session.state ≠ .awaitingInput ∧ g.tick lines =
      ⟨cue.play (g.changeSession fun s => { s with cursor := s.cursor + 1 }), lines, true⟩ := by
  constructor
  · simp [Session.state, hg.finished, hg.pending, hg.queue, h]
  · exact Game.tick_scripted hg.finished hg.pending hg.queue h lines

def restingAt (g : Game) (cursor : Nat) (area : Option String) : Game :=
  g.changeSession fun s => { s with area, cursor }

theorem Idle.renders_recital {w : World} (hw : w.Sound) {nodes : List Node} {g : Game}
    (hg : g.Idle w) (hcues : g.session.remaining = nodes.filterMap Node.cue?) {length : Nat}
    (hlength : g.session.cursor + (nodes.filterMap Node.cue?).length = length)
    (hwithin : ∀ cue ∈ nodes.filterMap Node.cue?, cue.Within w.areas.keys) (lines : List String) :
    Renders (g.restingAt length) g lines (Node.recite nodes g.session.area lines) := by
  induction nodes generalizing g lines with
  | nil =>
    have hrest : g = g.restingAt length g.session.area := by
      simp only [List.filterMap_nil, List.length_nil, Nat.add_zero] at hlength
      rw [restingAt, ← hlength]
      rfl
    rw [Node.recite, Part.pause]
    conv => arg 2; rw [hrest]
    exact .rested g.session.area lines
  | cons n nodes ih =>
    have hsame := n.part?_isSome
    cases hcue : n.cue? with
    | none =>
      have hpart : n.part? = none := by simpa [hcue] using hsame
      rw [List.filterMap_cons_none hcue] at hcues hlength hwithin
      rw [Node.recite, hpart]
      exact ih hg hcues hlength hwithin lines
    | some cue =>
      rw [List.filterMap_cons_some hcue] at hcues hlength hwithin
      simp only [List.forall_mem_cons, List.length_cons] at hwithin hlength
      obtain ⟨p, hpart, hp⟩ := n.cue_recites hw cue hcue hwithin.1
      obtain ⟨hstate, htick⟩ := hg.tick_scripted hcues (lines.map some)
      rw [Node.recite, hpart]
      -- The next cue is played in a game that is one cue further on.
      have hnext : (g.changeSession fun s => { s with cursor := s.cursor + 1 }).Idle w :=
        ⟨hg.world, hg.catalogue, hg.finished, hg.pending, hg.queue⟩
      refine ((hp _ hnext lines).turn hstate htick).andThen fun area unread => ?_
      exact ih (hnext.placed area) (Session.remaining_next hcues)
        (by simp only [Game.placed, changeSession]; omega) hwithin.2 unread

end Game

/-- A turn that leaves what a recital leaves: the same is seen, the player is in the same area, and
the same lines are unread. -/
structure Turn.Leaves (t : Turn) (r : Recital) : Prop where
  seen : t.outcome.seen = r.events
  area : t.outcome.game.session.area = r.area
  unread : t.unread = r.unread.map some
  fault : t.outcome.fault = if r.cutShort then some .endOfInput else none

namespace Game

def AtRest (g : Game) : Prop := g.session.state = .awaitingInput ∨ g.session.finished = true

theorem AtRest.openFor {g : Game} (h : g.AtRest) (fuel : Nat) (lines : Lines) :
    openFor fuel g lines = ⟨.done g, lines, true⟩ := by
  induction fuel with
  | zero => rfl
  | succ fuel ih =>
    rw [Game.openFor]
    split
    · rfl
    · next hstate =>
      rw [tick_finished (h.resolve_left hstate), Turn.andThen, Outcome.done_fault,
        Outcome.done_game, ih]
      rfl

/-- Turns that render a recital come to rest, and leave what the recital leaves. -/
theorem Renders.leaves_at_rest {rest : Option String → Game}
    (hrest : ∀ area, (rest area).AtRest ∧ (rest area).session.area = area) {g : Game}
    {lines : List String} {r : Recital} (h : Renders rest g lines r) : ∃ turns, ∀ fuel ≥ turns,
      (openFor fuel g (lines.map some)).Leaves r ∧
      (r.cutShort = false → (openFor fuel g (lines.map some)).outcome.game = rest r.area) := by
  induction h with
  | @rested area lines =>
    refine ⟨0, fun fuel _ => ?_⟩
    rw [(hrest area).1.openFor]
    exact ⟨⟨rfl, (hrest area).2, rfl, rfl⟩, fun _ => rfl⟩
  | @stopped g cue hf hp hprompt =>
    refine ⟨1, fun fuel hfuel => ?_⟩
    obtain ⟨more, rfl⟩ : ∃ more, fuel = more + 1 := ⟨fuel - 1, by omega⟩
    have hstate : g.session.state ≠ .awaitingInput := by simp [Session.state, hf, hp]
    have hdone : openFor (more + 1) g [] =
        ⟨⟨g, [.asked "> "], some .endOfInput⟩, [], true⟩ := by
      simp [openFor, hstate, tick, hf, hp, reading, hprompt, Outcome.next, Outcome.failed,
        Turn.andThen]
    rw [List.map_nil, hdone]
    exact ⟨⟨rfl, rfl, rfl, rfl⟩, by simp⟩
  | @turn g o lines unread alive r hstate htick hfault _ ih =>
    obtain ⟨turns, hturns⟩ := ih
    refine ⟨turns + 1, fun fuel hfuel => ?_⟩
    obtain ⟨more, rfl⟩ : ∃ more, fuel = more + 1 := ⟨fuel - 1, by omega⟩
    obtain ⟨hleaves, hend⟩ := hturns more (by omega)
    rw [openFor, if_neg hstate, htick, Turn.andThen, hfault]
    refine ⟨⟨?_, hleaves.area, hleaves.unread, hleaves.fault⟩, hend⟩
    have hseen := hleaves.seen
    simp only [Outcome.seen] at hseen
    simp only [Outcome.seen, List.filter_append, hseen, Recital.after]

theorem Renders.leaves {rest : Option String → Game}
    (hrest : ∀ area, (rest area).session.state = .awaitingInput ∧
      (rest area).session.area = area) {g : Game} {lines : List String} {r : Recital}
    (h : Renders rest g lines r) : ∃ turns, ∀ fuel ≥ turns,
      (openFor fuel g (lines.map some)).Leaves r ∧
      (r.cutShort = false → (openFor fuel g (lines.map some)).outcome.game = rest r.area) :=
  h.leaves_at_rest fun area => ⟨.inl (hrest area).1, (hrest area).2⟩

end Game

def Node.startNode? (root : Node) : Option Node :=
  (root.children.filter (·.tagged "entry")).find? (·.attr "id" == startScene)

theorem World.LoadedFrom.scene?_start {root : Node} {w : World} (h : LoadedFrom root w)
    (hchecked : root.Checked) : ∃ entry, root.startNode? = some entry ∧
      w.scene? Node.startScene = some (Scene.ofNode entry) := by
  have hscene : w.scene? Node.startScene = root.startNode?.map Scene.ofNode := by
    rw [scene?, h.scenes, Table.get?, List.find?_map, Option.map_map]
    rfl
  cases hstart : root.startNode? with
  | some entry => exact ⟨entry, rfl, by rw [hscene, hstart]; rfl⟩
  | none =>
    have hids := hchecked.start
    rw [← hchecked.idsOf_eq (by simp)] at hids
    obtain ⟨n, hn, hid⟩ := List.mem_map.mp hids
    have hnot := List.find?_eq_none.mp hstart n hn
    simp [hid] at hnot

namespace Game

/-- With the messages in English, the turns of a game that has just been opened leave what the
recital of its first scene leaves. Unless the lines run out the scene has then been played to its
end, and nothing is queued or pending. -/
theorem opening_renders_recital {document : Node} {traced : Bool} {o : Outcome}
    (h : ofDocument document .english traced = .ok o) (lines : List String) :
    ∃ entry, document.worldRoot.startNode? = some entry ∧ ∃ turns, ∀ fuel ≥ turns,
      (openFor fuel o.game (lines.map some)).Leaves (Node.recite entry.children none lines) ∧
      ((Node.recite entry.children none lines).cutShort = false →
        (openFor fuel o.game (lines.map some)).outcome.game.session.state = .awaitingInput ∧
        (openFor fuel o.game (lines.map some)).outcome.game.session.queue = [] ∧
        (openFor fuel o.game (lines.map some)).outcome.game.session.pending = none ∧
        (openFor fuel o.game (lines.map some)).outcome.game.session.cursor =
          (Scene.ofNode entry).cues.length) := by
  obtain ⟨w, hw, hgame⟩ := ofDocument_ok h
  obtain ⟨hchecked, hload⟩ := World.ofDocument_ok.mp hw
  have hloaded := World.loadedFrom_of_ok hchecked hload
  obtain ⟨entry, hentry, hscene⟩ := hloaded.scene?_start hchecked
  refine ⟨entry, hentry, ?_⟩
  have hsession : o.game.session = Session.start (some (Scene.ofNode entry)) := by
    rw [hgame, hscene]
  have hidle : o.game.Idle w := by
    constructor <;> simp [hgame, Session.start]
  have hrest : ∀ area, (o.game.restingAt (Scene.ofNode entry).cues.length area).session.state =
      .awaitingInput := by
    intro area
    simp [restingAt, changeSession, hsession, Session.start, Session.state, Session.remaining]
  have hcues : o.game.session.remaining = entry.children.filterMap Node.cue? := by
    simp [hsession, Session.start, Session.remaining, Scene.cues_ofNode]
  have hrenders := hidle.renders_recital hloaded.sound hcues
    (by simp [hsession, Session.start, Scene.cues_ofNode] : _ = (Scene.ofNode entry).cues.length)
    (by
      rw [← Scene.cues_ofNode]
      exact hloaded.sound.scenes _ (Table.mem_of_get? hscene)) lines
  obtain ⟨turns, hturns⟩ := hrenders.leaves fun area => ⟨hrest area, rfl⟩
  have harea : o.game.session.area = none := by rw [hsession]; rfl
  rw [harea] at hturns
  refine ⟨turns, fun fuel hfuel => ?_⟩
  obtain ⟨hleaves, hend⟩ := hturns fuel hfuel
  refine ⟨hleaves, fun hfull => ?_⟩
  rw [hend hfull]
  exact ⟨hrest _, hidle.queue, hidle.pending, rfl⟩

def crossroads : Node := Sample.around "adventure" [] [
  Sample.area "mill" "Mill" "An old mill." [],
  Sample.around "entry" [("id", "1")] [
    Sample.around "select" [("text", "Go on?")] [
      Sample.option "yes" [
        Sample.mark "sound" [],
        Sample.around "select" [("text", "Where to?")] [
          Sample.option "mill" [Sample.mark "enter" [("area", "mill")]]]],
      Sample.option "no" []],
    Sample.narration "Night falls."]]

theorem opening_renders_crossroads : ∃ o, ofDocument crossroads .english true = .ok o ∧
    ∃ turns, ∀ fuel ≥ turns,
      (openFor fuel o.game (["perhaps", "1", " mill ", "look"].map some)).Leaves
        ⟨some "mill",
          [.shown "Go on?", .shown "1 - yes", .shown "2 - no", .asked "> ", .asked "> ",
            .shown "Where to?", .shown "1 - mill", .asked "> ", .shown "Night falls."],
          ["look"], false⟩ := by
  have hopens : (ofDocument crossroads .english true).toOption.isSome = true := by decide +kernel
  have hstart : crossroads.worldRoot.startNode? = crossroads.children[1]? := by rfl
  cases h : ofDocument crossroads .english true with
  | error e => simp [h, Except.toOption] at hopens
  | ok o =>
    obtain ⟨entry, hentry, turns, hturns⟩ :=
      opening_renders_recital h ["perhaps", "1", " mill ", "look"]
    cases Option.some.inj (hentry.symm.trans hstart)
    exact ⟨o, rfl, turns, fun fuel hfuel => (hturns fuel hfuel).1⟩

end Game

end Fabula

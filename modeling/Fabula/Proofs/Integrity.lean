import Fabula.Catalogue.English
import Fabula.Sample
import Fabula.Proofs.Noun
import Fabula.Proofs.Reach

set_option autoImplicit false

namespace Fabula

namespace Game

/-- A game in which the area, the bag and all cues still to come refer to what is loaded. -/
structure Sound (g : Game) : Prop where
  world : g.world.Sound
  area : ∀ id, g.session.area = some id → id ∈ g.world.areas.keys
  bag : g.session.bag.Stocked g.world.items.keys
  scene : ∀ scene, g.session.scene = some scene → ∀ cue ∈ scene.cues,
    cue.Within g.world.areas.keys
  queue : ∀ cue ∈ g.session.queue, cue.Within g.world.areas.keys
  pending : ∀ cue, g.session.pending = some cue → cue.Within g.world.areas.keys

theorem fresh_sound {g : Game} {w : World} (hw : w.Sound) : (g.fresh w).Sound := by
  refine ⟨hw, by simp [fresh, Session.start], .empty _, ?_, by simp [fresh, Session.start],
    by simp [fresh, Session.start]⟩
  intro scene hs
  exact hw.scenes _ (Table.mem_of_get? hs)

/-- An area that is looked up is known by the id that it was looked up by. -/
theorem Sound.found {g : Game} (hg : g.Sound) {target id : String}
    (h : (g.world.area? target |>.map (·.id)) = some id) : id ∈ g.world.areas.keys := by
  obtain ⟨a, ha, rfl⟩ := Option.map_eq_some_iff.mp h
  rw [(hg.world.area ha).1]
  exact Table.get?_isSome.mp (by rw [← World.area?, ha]; rfl)

theorem Sound.moveTo {g : Game} (hg : g.Sound) (target : String) (heading : Option String) :
    (g.changeSession fun s =>
      { s with heading, area := g.world.area? target |>.map (·.id) }).Sound :=
  ⟨hg.world, fun _ h => hg.found h, hg.bag, hg.scene, hg.queue, hg.pending⟩

theorem Sound.changeArea {g : Game} (hg : g.Sound) (id : String) {f : Area → Area}
    (hid : ∀ a, (f a).id = a.id)
    (hf : ∀ a, a.Sound g.world.areas.keys g.world.items.keys →
      (f a).Sound g.world.areas.keys g.world.items.keys) :
    ({ g with world := g.world.changeArea id f } : Game).Sound := by
  have hkeys : (g.world.changeArea id f).areas.keys = g.world.areas.keys :=
    Table.keys_modify id f g.world.areas
  refine ⟨hg.world.changeArea hid hf, ?_, hg.bag, ?_, ?_, ?_⟩ <;> simp only [hkeys]
  · exact hg.area
  · exact hg.scene
  · exact hg.queue
  · exact hg.pending

theorem changeHoldings_items (g : Game) (place : Place) (f : Holdings → Holdings) :
    (g.changeHoldings place f).world.items = g.world.items := by
  have hleft := g.changeHoldings_rearranged place f
  generalize g.changeHoldings place f = after at *
  cases hleft <;> rfl

theorem Sound.changeHoldings {g : Game} (hg : g.Sound) (place : Place) {f : Holdings → Holdings}
    (hf : ∀ h, h.Stocked g.world.items.keys → (f h).Stocked g.world.items.keys) :
    (g.changeHoldings place f).Sound := by
  have hleft := g.changeHoldings_rearranged place f
  generalize g.changeHoldings place f = after at *
  cases hleft with
  | bag => exact ⟨hg.world, hg.area, hf _ hg.bag, hg.scene, hg.queue, hg.pending⟩
  | nowhere => exact hg
  | ground =>
    exact hg.changeArea _ (fun a => rfl) fun a hs => ⟨hs.exits, hf _ hs.loose, hs.fixtures⟩
  | fixture =>
    refine hg.changeArea _ (fun a => rfl) fun a hs => ⟨hs.exits, hs.loose, fun x hx => ?_⟩
    rcases mem_of_mem_modify hx with hold | ⟨y, hy, rfl⟩
    · exact hs.fixtures x hold
    · exact hf _ (hs.fixtures y hy)

theorem Sound.carry {g : Game} (hg : g.Sound) {item : String} (hi : item ∈ g.world.items.keys)
    (source target : Place) : (g.carry item source target).Sound := by
  have hless := hg.changeHoldings source (f := (·.remove item 1)) fun h hs => hs.remove item 1
  refine hless.changeHoldings target (f := (·.add item _)) ?_
  rw [changeHoldings_items]
  exact fun h hs => hs.add hi _

theorem Sound.item_known {g : Game} (hg : g.Sound) {place : Place} {word : String} {item : Item}
    (h : g.surroundings.itemIn? place word = some item) : item.id ∈ g.world.items.keys := by
  obtain ⟨id, -, hget⟩ := Surroundings.itemMeant?_spec h
  have hid := hg.world.itemIds _ (Table.mem_of_get? hget)
  simp only at hid
  rw [hid]
  exact Table.get?_isSome.mp (by rw [show g.world.items.get? id = some item from hget]; rfl)

theorem Sound.unlock {g : Game} (hg : g.Sound) (id : String) (i : Nat) :
    ({ g with world := g.world.unlock id i } : Game).Sound := by
  unfold World.unlock
  cases he : (g.world.area? id).bind (·.exits[i]?) with
  | none => exact hg
  | some e =>
    have hnear := hg.changeArea id
      (f := fun a => { a with exits := a.exits.modify i fun e => { e with isOpen := true } })
      (fun a => rfl) fun a hs => ⟨fun x hx => ?_, hs.loose, hs.fixtures⟩
    · refine hnear.changeArea e.target (fun a => rfl)
        fun a hs => ⟨fun x hx => ?_, hs.loose, hs.fixtures⟩
      obtain ⟨back, hback, rfl⟩ := List.mem_map.mp hx
      have hb := hs.exits back hback
      by_cases hc : back.target = id ∧ back.kind = e.kind
      · simpa [hc] using ⟨hc.1 ▸ hb.target, hb.key⟩
      · simpa [hc] using hb
    · rcases mem_of_mem_modify hx with hold | ⟨y, hy, rfl⟩
      · exact hs.exits x hold
      · exact ⟨(hs.exits y hy).target, (hs.exits y hy).key⟩

theorem Sound.remaining {g : Game} (hg : g.Sound) {cue : Cue} (hc : cue ∈ g.session.remaining) :
    cue.Within g.world.areas.keys := by
  unfold Session.remaining at hc
  cases hs : g.session.scene with
  | none => simp [hs] at hc
  | some scene =>
    simp only [hs] at hc
    exact hg.scene scene hs cue (List.mem_of_mem_drop hc)

theorem quitQuestion_within {g : Game} {question : Cue} (h : g.quitQuestion = .ok question)
    (areas : List String) : question.Within areas := by
  obtain ⟨asked, yes, no, rfl⟩ := quitQuestion_eq h
  simp [Cue.Within, Cue.targets, Cue.optionTargets]

theorem Sound.effect {g after : Game} {l : Line} (hg : g.Sound) (hreset : g.reset.game.Sound)
    (he : g.Effect l after) : after.Sound := by
  cases he with
  | none => exact hg
  | restart => exact hreset
  | @quit question _ hq =>
    refine ⟨hg.world, hg.area, hg.bag, hg.scene, fun cue hcue => ?_, hg.pending⟩
    rcases List.mem_append.mp hcue with hold | hnew
    · exact hg.queue cue hold
    · rw [List.mem_singleton.mp hnew]
      exact quitQuestion_within hq _
  | drop _ _ hi => exact hg.carry (hg.item_known hi) _ _
  | take _ ht =>
    obtain ⟨word, hi⟩ := Surroundings.target?_item ht
    exact hg.carry (hg.item_known hi) _ _
  | walk => exact hg.moveTo _ _
  | walkBack => exact hg.moveTo _ none
  | forget => exact ⟨hg.world, hg.area, hg.bag, hg.scene, hg.queue, hg.pending⟩
  | unlock => exact hg.unlock _ _

theorem Sound.played {g after : Game} {cue : Cue} (hg : g.Sound)
    (hcue : cue.Within g.world.areas.keys) (hp : Cue.Played g cue after) : after.Sound := by
  cases hp with
  | nothing => exact hg
  | enter => exact hg.moveTo _ g.session.heading
  | finish => exact ⟨hg.world, hg.area, hg.bag, hg.scene, hg.queue, hg.pending⟩
  | suspend =>
    refine ⟨hg.world, hg.area, hg.bag, hg.scene, hg.queue, fun c hc => ?_⟩
    exact Option.some.inj hc ▸ hcue

theorem Sound.turned {g after : Game} {lines : Lines} (hg : g.Sound) (hreset : g.reset.game.Sound)
    (ht : g.Turned lines after) : after.Sound := by
  cases ht with
  | nothing => exact hg
  | answer hp hr =>
    refine ⟨hg.world, hg.area, hg.bag, hg.scene, fun cue hcue => ?_,
      by simp [changeSession, Session.push]⟩
    rcases List.mem_append.mp hcue with hold | hnew
    · exact hg.queue cue hold
    · rw [List.mem_singleton.mp hnew]
      exact fun id hid => hg.pending _ hp id (Cue.targets_of_reply? hr hid)
  | @queued cue queue _ hq hp =>
    have hall : ∀ c ∈ cue :: queue, c.Within g.world.areas.keys := hq ▸ hg.queue
    have hrest : (g.changeSession fun s => { s with queue }).Sound :=
      ⟨hg.world, hg.area, hg.bag, hg.scene, fun c hc => hall c (List.mem_cons_of_mem _ hc),
        hg.pending⟩
    exact hrest.played (hall cue (by simp)) hp
  | @scripted cue _ hc hp =>
    have hrest : (g.changeSession fun s => { s with cursor := s.cursor + 1 }).Sound :=
      ⟨hg.world, hg.area, hg.bag, hg.scene, hg.queue, hg.pending⟩
    exact hrest.played (hg.remaining hc) hp
  | line _ _ he => exact hg.effect hreset he

theorem Sound.move {g : Game} (hg : g.Sound) (hreset : g.reset.game.Sound) (m : Move) :
    (g.move m).Sound := by
  cases m with
  | tick lines => exact hg.turned hreset (g.tick_turned lines)
  | execute text => exact hg.effect hreset (g.execute_effect text)
  | reset => exact hreset

structure Steady (g : Game) : Prop where
  sound : g.Sound
  again : ∃ w, World.load g.document.worldRoot = .ok w ∧ w.Sound

theorem Steady.reset_sound {g : Game} (hg : g.Steady) : g.reset.game.Sound := by
  obtain ⟨w, hload, hw⟩ := hg.again
  rw [reset_game hload]
  exact fresh_sound hw

theorem Steady.move {g : Game} (m : Move) (hg : g.Steady) : (g.move m).Steady :=
  ⟨hg.sound.move hg.reset_sound m, by rw [(g.move_sameStory m).document]; exact hg.again⟩

theorem ofDocument_steady {document : Node} {catalogue : Catalogue} {traced : Bool} {o : Outcome}
    (h : ofDocument document catalogue traced = .ok o) : o.game.Steady := by
  obtain ⟨w, hw, hgame⟩ := ofDocument_ok h
  obtain ⟨hchecked, hload⟩ := World.ofDocument_ok.mp hw
  have hs := (World.loadedFrom_of_ok hchecked hload).sound
  rw [hgame]
  exact ⟨fresh_sound (g := ⟨document, w, Session.start none, catalogue, traced⟩) hs, w, hload, hs⟩

def startsOver (g : Game) (text : String) : Bool :=
  (Line.ofText text).verb == "restart" && (g.catalogue.get? "restarted").isSome

def restarts (g : Game) : Move → Bool
  | .tick (some text :: _) => g.session.state == .awaitingInput && g.startsOver text
  | .tick _ => false
  | .execute text => g.startsOver text
  | .reset => true

def unbroken (g : Game) : List Move → Bool
  | [] => true
  | m :: moves => !g.restarts m && (g.move m).unbroken moves

theorem startsOver_execute {g : Game} {text : String} (h : g.startsOver text = true) :
    (g.execute text).outcome.game = g.reset.game := by
  simp only [startsOver, Bool.and_eq_true, beq_iff_eq] at h
  obtain ⟨restarted, hr⟩ := Option.isSome_iff_exists.mp h.2
  have hd : (Line.ofText text).deeds? g = some [.say "restarted", .restart] := by
    simp [Line.deeds?, h.1, Verb.ofWord?, Verb.needsArgument, Verb.deeds]
  have hverb : ¬(Line.ofText text).verb = "" := by simp [h.1]
  simp only [execute, hverb, hd, if_false, trace_next]
  exact restart_game hr

theorem restarts_move {g : Game} {m : Move} (h : g.restarts m = true) :
    g.move m = g.reset.game := by
  cases m with
  | reset => rfl
  | execute text => exact startsOver_execute h
  | tick lines =>
    cases lines with
    | nil => cases h
    | cons line rest =>
      cases line with
      | none => cases h
      | some text =>
        simp only [restarts, Bool.and_eq_true, beq_iff_eq] at h
        rw [← startsOver_execute h.2, move, tick_awaiting h.1]
        rfl

def heard? (g : Game) : Move → Option Line
  | .tick (some text :: _) =>
    if g.session.state = .awaitingInput then some (Line.ofText text) else none
  | .tick _ => none
  | .execute text => some (Line.ofText text)
  | .reset => none

/-- What is heard is done as if the line had been given directly. -/
theorem move_heard {g : Game} {m : Move} {l : Line} (h : g.heard? m = some l) :
    ∃ text, l = Line.ofText text ∧ g.move m = (g.execute text).outcome.game ∧
      g.restarts m = g.startsOver text := by
  cases m with
  | reset => cases h
  | execute text => exact ⟨text, (Option.some.inj h).symm, rfl, rfl⟩
  | tick lines =>
    cases lines with
    | nil => cases h
    | cons line rest =>
      cases line with
      | none => cases h
      | some text =>
        by_cases hs : g.session.state = .awaitingInput
        · simp only [heard?, hs, if_true, Option.some.injEq] at h
          refine ⟨text, h.symm, ?_, by simp [restarts, hs]⟩
          rw [move, tick_awaiting hs]
          rfl
        · simp [heard?, hs] at h

theorem turned_world {g after : Game} {lines : Lines} (ht : g.Turned lines after)
    (h : g.heard? (.tick lines) = none) : after.world = g.world := by
  cases ht with
  | nothing => rfl
  | answer => rfl
  | queued _ hp => cases hp <;> rfl
  | scripted _ hp => cases hp <;> rfl
  | line hstate hlines =>
    subst hlines
    simp [heard?, hstate] at h

theorem move_world {g : Game} {m : Move} (h : g.heard? m = none) (hr : g.restarts m = false) :
    (g.move m).world = g.world := by
  cases m with
  | reset => cases hr
  | execute text => cases h
  | tick lines => exact turned_world (g.tick_turned lines) h

theorem carry_area (g : Game) (item : String) (source target : Place) :
    (g.carry item source target).session.area = g.session.area := by
  obtain ⟨bag, hbag⟩ := g.carry_session item source target
  rw [hbag]

theorem area_of_known {g : Game} {target : String} (h : target ∈ g.world.areas.keys) :
    (g.world.area? target |>.map (·.id)).isSome := by
  rw [Option.isSome_map]
  exact Table.get?_isSome.mpr h

theorem Sound.exit_known {g : Game} (hg : g.Sound) {area : Area} (ha : g.area? = some area)
    {direction : String} {e : Exit} (he : area.exit? direction = some e) :
    e.target ∈ g.world.areas.keys := by
  obtain ⟨id, -, hid⟩ := Option.bind_eq_some_iff.mp ha
  exact ((hg.world.area hid).2.exits e (List.mem_of_find?_eq_some he)).target

/-- Only a new start takes the player out of all areas. -/
theorem Sound.effect_placed {g after : Game} {text : String} (hg : g.Sound)
    (he : g.Effect (Line.ofText text) after) (hr : g.startsOver text = false)
    (hs : g.session.area.isSome) : after.session.area.isSome := by
  cases he with
  | restart hl hm => simp [startsOver, hl, hm] at hr
  | drop => rw [carry_area]; exact hs
  | take => rw [carry_area]; exact hs
  | walk _ ha _ hexit => exact area_of_known (hg.exit_known ha hexit)
  | walkBack _ ha _ hexit => exact area_of_known (hg.exit_known ha hexit)
  | _ => exact hs

theorem played_placed {g after : Game} {cue : Cue} (hp : Cue.Played g cue after)
    (hcue : cue.Within g.world.areas.keys) (hs : g.session.area.isSome) :
    after.session.area.isSome := by
  cases hp with
  | @enter area => exact area_of_known (hcue area (by simp [Cue.targets]))
  | _ => exact hs

theorem Sound.turned_placed {g after : Game} {lines : Lines} (hg : g.Sound)
    (ht : g.Turned lines after) (hr : g.restarts (.tick lines) = false)
    (hs : g.session.area.isSome) : after.session.area.isSome := by
  cases ht with
  | nothing => exact hs
  | answer => exact hs
  | queued hq hp => exact played_placed hp (hg.queue _ (by simp [hq])) hs
  | scripted hc hp => exact played_placed hp (hg.remaining hc) hs
  | line hstate hlines he =>
    subst hlines
    exact hg.effect_placed he (by simpa [restarts, hstate] using hr) hs

theorem Sound.move_placed {g : Game} (hg : g.Sound) {m : Move} (hr : g.restarts m = false)
    (hs : g.session.area.isSome) : (g.move m).session.area.isSome := by
  cases m with
  | reset => cases hr
  | execute text => exact hg.effect_placed (g.execute_effect text) hr hs
  | tick lines => exact hg.turned_placed (g.tick_turned lines) hr hs

theorem Steady.after_placed {g : Game} (hg : g.Steady) {moves : List Move}
    (hm : g.unbroken moves = true) (hs : g.session.area.isSome) :
    (g.after moves).session.area.isSome := by
  induction moves generalizing g with
  | nil => exact hs
  | cons m moves ih =>
    simp only [unbroken, Bool.and_eq_true, Bool.not_eq_true'] at hm
    exact ih (hg.move m) hm.2 (hg.sound.move_placed hm.1 hs)

/-- Whatever is played, all that a game refers to is loaded, and once the player is in an area they
stay in one until the game starts over. -/
theorem reached_sound {document : Node} {catalogue : Catalogue} {traced : Bool} {o : Outcome}
    (h : ofDocument document catalogue traced = .ok o) (moves : List Move) :
    (o.game.after moves).Sound ∧
    ∀ later, (o.game.after moves).unbroken later = true →
      (o.game.after moves).session.area.isSome →
      ((o.game.after moves).after later).session.area.isSome := by
  have hg : (o.game.after moves).Steady :=
    after_keeps (fun g m hg => hg.move m) (ofDocument_steady h) moves
  exact ⟨hg.sound, fun later hm hs => hg.after_placed hm hs⟩

def arrival : List Move := [.tick [], .tick [], .tick [], .tick [some " 2 "], .tick [], .tick []]

def stroll : List Move := [.execute "take letter from well", .tick [some "go north"]]

theorem reached_sound_sample : ∃ o, ofDocument Sample.document Catalogue.english false = .ok o ∧
    (o.game.after arrival).session.area = some "yard" ∧ (o.game.after arrival).Sound ∧
    ((o.game.after arrival).after stroll).session.area.isSome := by
  have hrun : (ofDocument Sample.document Catalogue.english false).toOption.any (fun o =>
      (o.game.after arrival).session.area == some "yard" &&
        (o.game.after arrival).unbroken stroll) = true := by decide +kernel
  cases h : ofDocument Sample.document Catalogue.english false with
  | error e => simp [h, Except.toOption] at hrun
  | ok o =>
    simp only [h, Except.toOption, Option.any_some, Bool.and_eq_true, beq_iff_eq] at hrun
    have hs := reached_sound h arrival
    exact ⟨o, rfl, hrun.1, hs.1, hs.2 stroll hrun.2 (by simp [hrun.1])⟩

end Game

end Fabula

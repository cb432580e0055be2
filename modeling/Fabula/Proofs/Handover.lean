import Fabula.Proofs.Frame
import Fabula.Proofs.Return

/-!
Handing things over: a line that carries one piece of an item from one place around to another, and
says so. What such lines leave, one after the other, is known by how many pieces of each item there
are more or less in each place.
-/

set_option autoImplicit false

namespace Fabula

namespace Game

/-- Games that differ in nothing but what lies in certain places around, and there by so many
pieces of each item. -/
structure Shifted (g : Game) (places : List Place) (change : Place → String → Int)
    (after : Game) : Prop where
  amounts : ∀ place held, g.lying? place = some held → ∃ later, after.lying? place = some later ∧
    ∀ item, later.amount item = held.amount item + change place item
  others : ∀ place, place ∉ places → after.lying? place = g.lying? place
  elsewhere : ∀ id, g.session.area ≠ some id → after.world.area? id = g.world.area? id
  outline : g.world.SameOutline after.world
  exits : after.world.exit? = g.world.exit?
  session : after.session = { g.session with bag := after.session.bag }
  story : g.SameStory after

section

variable {g after last : Game} {places : List Place} {change more : Place → String → Int}

theorem Shifted.refl (g : Game) (places : List Place) : g.Shifted places (fun _ _ => 0) g :=
  ⟨fun _ held hheld => ⟨held, hheld, by simp⟩, fun _ _ => rfl, fun _ _ => rfl, .refl g.world, rfl,
    rfl, .refl g⟩

theorem Shifted.area (h : g.Shifted places change after) : after.session.area = g.session.area := by
  rw [h.session]

theorem Shifted.trans (h : g.Shifted places change after) (h' : after.Shifted places more last) :
    g.Shifted places (fun place item => change place item + more place item) last where
  amounts place held hheld := by
    obtain ⟨later, hlater, hamount⟩ := h.amounts place held hheld
    obtain ⟨latest, hlatest, hamount'⟩ := h'.amounts place later hlater
    exact ⟨latest, hlatest, fun item => by rw [hamount', hamount]; omega⟩
  others place hplace := (h'.others place hplace).trans (h.others place hplace)
  elsewhere id hid := (h'.elsewhere id (h.area ▸ hid)).trans (h.elsewhere id hid)
  outline := h.outline.trans h'.outline
  exits := h'.exits.trans h.exits
  session := by rw [h'.session, h.session]
  story := h.story.trans h'.story

def transfer (pieces : String → Int) (source target place : Place) (item : String) : Int :=
  (if place = target then pieces item else 0) - if place = source then pieces item else 0

def onePiece (item other : String) : Int := if other = item then 1 else 0

theorem Carried.shifted {item : String} {source target : Place}
    (h : g.Carried item source target after) (hsource : source ∈ places)
    (htarget : target ∈ places) : g.Shifted places (transfer (onePiece item) source target) after where
  amounts place held hheld := by
    obtain ⟨later, hlater, hamount⟩ := h.amounts place held hheld
    refine ⟨later, hlater, fun other => ?_⟩
    rw [hamount, transfer, onePiece, ite_and, ite_and]
    omega
  others place hplace := by
    have hnotSource : source ≠ place := fun heq => hplace (heq ▸ hsource)
    have hnotTarget : target ≠ place := fun heq => hplace (heq ▸ htarget)
    rw [h.carry, Game.carry, lying?_changeHoldings, lying?_changeHoldings, if_neg hnotTarget,
      if_neg hnotSource]
  elsewhere := h.elsewhere
  outline := h.outline
  exits := h.exits
  session := h.session
  story := h.story

end

/-- A line that hands one piece of an item on, and says so by a message if it can be filled in;
only an amount that is too long to be written keeps it from that. -/
structure Hands (w : World) (g : Game) (text key : String) (item : Item)
    (source target : Place) : Prop where
  known : g.world.item? item.id = some item
  carried : g.Carried item.id source target (g.execute text).outcome.game
  said : ∀ message, g.filled key [("item", .text item.name)] = .ok message →
    (g.execute text).Says message ∨
    ∃ fault, (g.execute text).outcome.fault = some fault ∧ fault.OverAmount w

section

variable {document : Node} {w : World} {g : Game} {text : String} {item : Item}

theorem Sound.item_found (hg : g.Sound) {place : Place} {word : String}
    (h : g.surroundings.itemIn? place word = some item) : g.world.item? item.id = some item := by
  obtain ⟨id, -, hget⟩ := Surroundings.itemMeant?_spec h
  rw [hg.world.itemIds _ (Table.mem_of_get? hget)]
  exact hget

variable (hload : World.load document.worldRoot = .ok w) (hg : g.Tallied document w)

include hload hg

theorem Tallied.hands {source target : Place} {n : Note} {key : String}
    (hknown : g.world.item? item.id = some item)
    (hcarried : g.Carried item.id source target (g.execute text).outcome.game)
    (hdeeds : (Line.ofText text).deeds? g =
      some [.carry item.id source target, .note n, .fill key [("item", .text item.name)]]) :
    g.Hands w text key item source target := by
  refine ⟨hknown, hcarried, fun message hmessage => ?_⟩
  have hlater : (g.carry item.id source target).Tallied document w := by
    rw [← hcarried.carry]
    exact hg.move hload g (.execute text)
  have hsteps : performAll [.carry item.id source target, .note n,
      .fill key [("item", .text item.name)]] g =
        ((Deed.note n).perform (g.carry item.id source target)).next
          (performAll [.fill key [("item", .text item.name)]]) := rfl
  have hfill : (Deed.fill key [("item", .text item.name)]).perform (g.carry item.id source target) =
      (g.carry item.id source target).display message := by
    have hsame := (SameStory.carry g item.id source target).catalogue
    rw [Deed.perform, filled_text_congr hsame, hmessage]
    rfl
  cases hn : (g.carry item.id source target).noteText n with
  | error fault =>
    refine .inr ⟨fault, ?_, hlater.overAmount (hlater.steady.sound.noteText_error hn)⟩
    rw [execute_fault hdeeds, hsteps, Deed.perform, hn]
    rfl
  | ok line =>
    left
    constructor
    · rw [execute_seen hdeeds, hsteps, Deed.perform, hn, Outcome.next_seen, trace_seen, trace_game,
        performAll_cons, hfill]
      rfl
    · rw [execute_fault hdeeds, hsteps, Deed.perform, hn, Outcome.next_fault, trace_game,
        performAll_cons, hfill]
      rfl

theorem Tallied.take_hands (hverb : (Line.ofText text).verb = "take") {place : Place}
    (ht : g.surroundings.target? (Line.ofText text).args = some (.item item place))
    (hplace : place ≠ .bag) : g.Hands w text "taken" item place .bag := by
  have hargs : (Line.ofText text).args ≠ [] := by
    intro hempty
    rw [hempty] at ht
    cases ht
  have hdeeds := deeds?_of_verb (g := g) (v := .take) (by rw [hverb]; rfl) hargs
  rw [Verb.deeds, takeItem_eq ht hplace] at hdeeds
  obtain ⟨word, hword⟩ := Surroundings.target?_item ht
  exact hg.hands hload (hg.steady.sound.item_found hword)
    (hg.steady.sound.take_carried hverb ht hplace) hdeeds

theorem Tallied.drop_hands (hverb : (Line.ofText text).verb = "drop")
    (hargs : (Line.ofText text).args ≠ []) {area : Area} (harea : g.area? = some area)
    (hitem : g.surroundings.itemIn? .bag (Line.ofText text).argument = some item) :
    g.Hands w text "dropped" item .bag .ground := by
  have hdeeds := deeds?_of_verb (g := g) (v := .drop) (by rw [hverb]; rfl) hargs
  rw [Verb.deeds, dropItem_eq harea hitem] at hdeeds
  exact hg.hands hload (hg.steady.sound.item_found hitem)
    (hg.steady.sound.drop_carried hverb hargs harea hitem) hdeeds

end

end Game

end Fabula

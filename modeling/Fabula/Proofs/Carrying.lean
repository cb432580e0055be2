import Fabula.Proofs.Locality
import Fabula.Proofs.Outline
import Fabula.Proofs.Resolution
import Fabula.Proofs.Wording

set_option autoImplicit false

namespace Fabula

theorem Holdings.removable_one {h : Holdings} {item : String} (hitem : 0 < h.amount item) :
    h.removable item 1 = 1 := by
  have hpresent : ¬(h.amount item ≤ 0 ∨ (1 : Int) ≤ 0) := by omega
  rw [removable, if_neg hpresent]
  omega

namespace Game

theorem lying?_changeHoldings (g : Game) (place : Place) (f : Holdings → Holdings) (q : Place) :
    (g.changeHoldings place f).lying? q =
      if place = q then (g.lying? q).map f else g.lying? q := by
  have hleft := g.changeHoldings_rearranged place f
  generalize g.changeHoldings place f = after at *
  cases hleft with
  | bag => cases q <;> rfl
  | nowhere hid hplace =>
    have hnone : g.area? = none := by simp [area?, hid]
    split
    · next heq =>
      subst heq
      cases place with
      | bag => exact absurd rfl hplace
      | ground => simp [lying?, hnone]
      | fixture i => simp [lying?, hnone]
    · rfl
  | @ground id hid =>
    have harea : ({ g with world := g.world.changeArea id fun a =>
        { a with items := f a.items } } : Game).area? =
        g.area?.map fun a => { a with items := f a.items } := by
      simp [area?, hid, World.area?_changeArea]
    cases q with
    | bag => rfl
    | ground => cases ha : g.area? <;> simp [lying?, harea, ha]
    | fixture i => cases ha : g.area? <;> simp [lying?, harea, ha]
  | @fixture id i hid =>
    have harea : ({ g with world := g.world.changeArea id fun a => { a with
        fixtures := a.fixtures.modify i fun x => { x with items := f x.items } } } : Game).area? =
        g.area?.map fun a => { a with
          fixtures := a.fixtures.modify i fun x => { x with items := f x.items } } := by
      simp [area?, hid, World.area?_changeArea]
    cases q with
    | bag => rfl
    | ground => cases ha : g.area? <;> simp [lying?, harea, ha]
    | fixture j =>
      cases ha : g.area? with
      | none => simp [lying?, harea, ha]
      | some a =>
        simp only [lying?, harea, ha, Option.map_some, Option.bind_some, List.getElem?_modify]
        by_cases hij : i = j <;> cases a.fixtures[j]? <;> simp [hij]

/-- What a step leaves that carries one piece of an item, of which there is one, to another place
that is there. -/
structure Carried (g : Game) (item : String) (source target : Place) (after : Game) : Prop where
  carry : after = g.carry item source target
  present : ∃ held, g.lying? source = some held ∧ 0 < held.amount item
  there : (g.lying? target).isSome
  /-- In each place around. -/
  amounts : ∀ place held, g.lying? place = some held → ∃ later, after.lying? place = some later ∧
    ∀ other, later.amount other = held.amount other -
      (if place = source ∧ other = item then 1 else 0) +
      if place = target ∧ other = item then 1 else 0
  elsewhere : ∀ id, g.session.area ≠ some id → after.world.area? id = g.world.area? id
  outline : g.world.SameOutline after.world
  exits : after.world.exit? = g.world.exit?
  session : after.session = { g.session with bag := after.session.bag }
  story : g.SameStory after

theorem Sound.carried {g : Game} (hg : g.Sound) {item : String} {source target : Place}
    {held : Holdings} (hsource : g.lying? source = some held) (hitem : 0 < held.amount item)
    (htarget : (g.lying? target).isSome) :
    g.Carried item source target (g.carry item source target) := by
  have hone : (g.surroundings.holdings source).removable item 1 = 1 := by
    rw [surroundings_holdings, hsource, Option.getD_some]
    exact Holdings.removable_one hitem
  refine ⟨rfl, ⟨held, hsource, hitem⟩, htarget, fun place there hthere => ?_,
    fun id hid => area?_carry item source target hid, g.carry_outline item source target,
    exit?_carry g item source target, ?_, .carry g item source target⟩
  · -- A piece is taken away first, if it is taken from there, and then one is added.
    let less := if source = place then there.remove item 1 else there
    have hless : ∀ other, less.amount other =
        there.amount other - if place = source ∧ other = item then 1 else 0 := by
      intro other
      by_cases hplace : source = place
      · subst hplace
        obtain rfl := Option.some.inj (hsource.symm.trans hthere)
        simp only [less, if_true, true_and, eq_comm (a := other),
          Holdings.amount_remove (hg.lying hsource).toListed, Holdings.removable_one hitem]
      · simp [less, hplace, Ne.symm hplace]
    refine ⟨if target = place then less.add item 1 else less, ?_, fun other => ?_⟩
    · rw [Game.carry, hone, lying?_changeHoldings, lying?_changeHoldings, hthere]
      simp only [less]
      split <;> split <;> rfl
    · rw [← hless]
      by_cases hplace : target = place
      · subst hplace
        simp [Holdings.amount_add, eq_comm (a := other)]
      · simp [hplace, Ne.symm hplace]
  · obtain ⟨bag, hbag⟩ := g.carry_session item source target
    rw [hbag]

theorem deeds?_of_verb {g : Game} {l : Line} {v : Verb} (hv : Verb.ofWord? l.verb = some v)
    (hargs : l.args ≠ []) : l.deeds? g = some (v.deeds l.args g) := by
  simp [Line.deeds?, hv, hargs]

theorem takeItem_eq {g : Game} {args : List String} {item : Item} {place : Place}
    (ht : g.surroundings.target? args = some (.item item place)) (hplace : place ≠ .bag) :
    g.takeItem args = [.carry item.id place .bag, .note .bag,
      .fill "taken" [("item", .text item.name)]] := by
  unfold takeItem
  cases place with
  | bag => exact absurd rfl hplace
  | ground => simp [ht]
  | fixture i => simp [ht]

theorem dropItem_eq {g : Game} {args : List String} {area : Area} (harea : g.area? = some area)
    {item : Item} (hitem : g.surroundings.itemIn? .bag (Text.unwords args) = some item) :
    g.dropItem args = [.carry item.id .bag .ground, .note .bagAndGround,
      .fill "dropped" [("item", .text item.name)]] := by
  simp [dropItem, harea, hitem]

theorem Sound.take_carried {g : Game} (hg : g.Sound) {text : String}
    (hverb : (Line.ofText text).verb = "take") {item : Item} {place : Place}
    (ht : g.surroundings.target? (Line.ofText text).args = some (.item item place))
    (hplace : place ≠ .bag) : g.Carried item.id place .bag (g.execute text).outcome.game := by
  have hargs : (Line.ofText text).args ≠ [] := by
    intro hempty
    rw [hempty] at ht
    cases ht
  have hdeeds := deeds?_of_verb (g := g) (v := .take) (by rw [hverb]; rfl) hargs
  obtain ⟨word, hword⟩ := Surroundings.target?_item ht
  obtain ⟨held, hheld, hpresent⟩ := hg.item_present hword
  have hafter : (g.execute text).outcome.game = g.carry item.id place .bag := by
    rw [execute_game hdeeds, Verb.deeds, takeItem_eq ht hplace,
      performAll_then_quiet _ (by simp [Deed.IsQuiet])]
    rfl
  rw [hafter]
  exact hg.carried hheld hpresent rfl

theorem Sound.drop_carried {g : Game} (hg : g.Sound) {text : String}
    (hverb : (Line.ofText text).verb = "drop") (hargs : (Line.ofText text).args ≠ [])
    {area : Area} (harea : g.area? = some area) {item : Item}
    (hitem : g.surroundings.itemIn? .bag (Line.ofText text).argument = some item) :
    g.Carried item.id .bag .ground (g.execute text).outcome.game := by
  have hdeeds := deeds?_of_verb (g := g) (v := .drop) (by rw [hverb]; rfl) hargs
  obtain ⟨held, hheld, hpresent⟩ := hg.item_present hitem
  have hafter : (g.execute text).outcome.game = g.carry item.id .bag .ground := by
    rw [execute_game hdeeds, Verb.deeds, dropItem_eq harea hitem,
      performAll_then_quiet _ (by simp [Deed.IsQuiet])]
    rfl
  rw [hafter]
  exact hg.carried hheld hpresent (by simp [lying?, harea])

end Game

end Fabula

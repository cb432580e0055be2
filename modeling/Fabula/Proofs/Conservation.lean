import Fabula.Proofs.Integrity

set_option autoImplicit false

namespace Fabula

def Area.pieces (a : Area) (item : String) : Int :=
  a.items.amount item + total (·.items.amount item) a.fixtures

def World.pieces (w : World) (item : String) : Int :=
  total (·.2.pieces item) w.areas

/-- How many pieces of an item there are, in the bag and in all areas. -/
def Game.pieces (g : Game) (item : String) : Int :=
  g.session.bag.amount item + g.world.pieces item

namespace World

theorem pieces_changeArea (w : World) (id : String) (f : Area → Area) (item : String) :
    (w.changeArea id f).pieces item = w.pieces item +
      ((w.area? id).map fun a => (f a).pieces item - a.pieces item).getD 0 :=
  Table.total_modify (fun a : Area => a.pieces item) id f w.areas

theorem pieces_unlock (w : World) (id : String) (position : Nat) (item : String) :
    (w.unlock id position).pieces item = w.pieces item := by
  have same : ∀ (w : World) (id : String) (exits : Area → List Exit),
      (w.changeArea id fun a => { a with exits := exits a }).pieces item = w.pieces item := by
    intro w id exits
    rw [pieces_changeArea]
    cases w.area? id <;> simp [Area.pieces]
  unfold unlock
  cases (w.area? id).bind (·.exits[position]?) with
  | none => rfl
  | some e => simp only [same]

end World

theorem Area.Sound.pieces_nonneg {areas items : List String} {a : Area} (ha : a.Sound areas items)
    (item : String) : 0 ≤ a.pieces item := by
  have hloose := Holdings.amount_nonneg ha.loose.toListed item
  have hfixtures : 0 ≤ total (·.items.amount item) a.fixtures :=
    total_nonneg fun f hf => Holdings.amount_nonneg (ha.fixtures f hf).toListed item
  rw [Area.pieces]
  omega

namespace Game

def lying? (g : Game) : Place → Option Holdings
  | .bag => some g.session.bag
  | .ground => g.area?.map (·.items)
  | .fixture i => (g.area?.bind (·.fixtures[i]?)).map (·.items)

theorem surroundings_holdings (g : Game) (place : Place) :
    g.surroundings.holdings place = (g.lying? place).getD [] := by
  cases place <;> rfl

theorem Sound.lying {g : Game} (hg : g.Sound) {place : Place} {h : Holdings}
    (hl : g.lying? place = some h) : h.Stocked g.world.items.keys := by
  cases place with
  | bag => exact Option.some.inj hl ▸ hg.bag
  | ground =>
    obtain ⟨a, ha, rfl⟩ := Option.map_eq_some_iff.mp hl
    obtain ⟨id, -, hid⟩ := Option.bind_eq_some_iff.mp ha
    exact (hg.world.area hid).2.loose
  | fixture i =>
    obtain ⟨f, hf, rfl⟩ := Option.map_eq_some_iff.mp hl
    obtain ⟨a, ha, hi⟩ := Option.bind_eq_some_iff.mp hf
    obtain ⟨id, -, hid⟩ := Option.bind_eq_some_iff.mp ha
    exact (hg.world.area hid).2.fixtures f (List.mem_of_getElem? hi)

theorem Sound.le_pieces {g : Game} (hg : g.Sound) {id : String} {a : Area}
    (ha : g.world.area? id = some a) (item : String) :
    a.pieces item ≤ g.pieces item := by
  have hbag := Holdings.amount_nonneg hg.bag.toListed item
  have hworld : a.pieces item ≤ g.world.pieces item :=
    le_total (fun row : String × Area => row.2.pieces item)
      (fun row hrow => (hg.world.areas row hrow).pieces_nonneg item) (Table.mem_of_get? ha)
  rw [Game.pieces]
  omega

/-- In no place is there more of an item than there is of it. -/
theorem Sound.amount_le_pieces {g : Game} (hg : g.Sound) {place : Place} {h : Holdings}
    (hl : g.lying? place = some h) (item : String) : h.amount item ≤ g.pieces item := by
  cases place with
  | bag =>
    have hworld : 0 ≤ g.world.pieces item :=
      total_nonneg fun row hrow => (hg.world.areas row hrow).pieces_nonneg item
    cases hl
    rw [Game.pieces]
    omega
  | ground =>
    obtain ⟨a, ha, rfl⟩ := Option.map_eq_some_iff.mp hl
    obtain ⟨id, -, hid⟩ := Option.bind_eq_some_iff.mp ha
    have hle := hg.le_pieces hid item
    have hfixtures : 0 ≤ total (·.items.amount item) a.fixtures := total_nonneg fun f hf =>
      Holdings.amount_nonneg ((hg.world.area hid).2.fixtures f hf).toListed item
    rw [Area.pieces] at hle
    omega
  | fixture i =>
    obtain ⟨f, hf, rfl⟩ := Option.map_eq_some_iff.mp hl
    obtain ⟨a, ha, hi⟩ := Option.bind_eq_some_iff.mp hf
    obtain ⟨id, -, hid⟩ := Option.bind_eq_some_iff.mp ha
    have hle := hg.le_pieces hid item
    have hloose := Holdings.amount_nonneg (hg.world.area hid).2.loose.toListed item
    have hfixture : f.items.amount item ≤ total (·.items.amount item) a.fixtures :=
      le_total (fun f : Fixture => f.items.amount item) (fun f hf =>
        Holdings.amount_nonneg ((hg.world.area hid).2.fixtures f hf).toListed item)
        (List.mem_of_getElem? hi)
    rw [Area.pieces] at hle
    omega

theorem pieces_changeHoldings (g : Game) (place : Place) (f : Holdings → Holdings)
    (item : String) : (g.changeHoldings place f).pieces item = g.pieces item +
      ((g.lying? place).map fun h => (f h).amount item - h.amount item).getD 0 := by
  have hleft := g.changeHoldings_rearranged place f
  generalize g.changeHoldings place f = after at *
  cases hleft with
  | bag =>
    simp only [changeSession, pieces, lying?, Option.map_some, Option.getD_some]
    omega
  | nowhere hid hplace => cases place <;> simp_all [lying?, area?]
  | @ground id hid =>
    simp only [pieces, World.pieces_changeArea, lying?, area?, hid, Option.bind_some]
    cases g.world.area? id with
    | none => simp
    | some a => simp [Area.pieces]; omega
  | @fixture id i hid =>
    simp only [pieces, World.pieces_changeArea, lying?, area?, hid, Option.bind_some]
    cases g.world.area? id with
    | none => simp
    | some a =>
      simp only [Area.pieces, Option.map_some, Option.getD_some, Option.bind_some, total_modify]
      cases a.fixtures[i]? with
      | none => simp
      | some x => simp; omega

theorem changeHoldings_area?_isSome (g : Game) (place : Place) (f : Holdings → Holdings) :
    (g.changeHoldings place f).area?.isSome = g.area?.isSome := by
  have same : ∀ (id : String) (change : Area → Area),
      ((g.world.changeArea id change).area? id).isSome = (g.world.area? id).isSome := by
    intro id change
    rw [Bool.eq_iff_iff]
    simp only [World.area?, Table.get?_isSome, World.changeArea, Table.keys_modify]
  have hleft := g.changeHoldings_rearranged place f
  generalize g.changeHoldings place f = after at *
  cases hleft with
  | bag => rfl
  | nowhere => rfl
  | ground hid => simp [area?, hid, same]
  | fixture hid => simp [area?, hid, same]

theorem Sound.pieces_carry {g : Game} (hg : g.Sound) {item : String} {source target : Place}
    (ht : target = .bag ∨ target = .ground ∧ g.area?.isSome) (other : String) :
    (g.carry item source target).pieces other = g.pieces other := by
  have hpresent : ((g.changeHoldings source (·.remove item 1)).lying? target).isSome := by
    rcases ht with rfl | ⟨rfl, ha⟩
    · rfl
    · rw [lying?, Option.isSome_map, changeHoldings_area?_isSome]
      exact ha
  obtain ⟨there, hthere⟩ := Option.isSome_iff_exists.mp hpresent
  rw [Game.carry, pieces_changeHoldings, hthere, pieces_changeHoldings, surroundings_holdings]
  cases hs : g.lying? source with
  | none => simp [Holdings.removable, Holdings.add, Holdings.amount]
  | some h =>
    have hl := (hg.lying hs).toListed
    have hn := Holdings.removable_nonneg hl item 1
    simp only [Option.map_some, Option.getD_some, Holdings.amount_remove hl,
      Holdings.amount_add there item hn]
    omega

theorem Sound.pieces_effect {g after : Game} {l : Line} (hg : g.Sound) (he : g.Effect l after)
    {item : String} (hreset : g.reset.game.pieces item = g.pieces item) :
    after.pieces item = g.pieces item := by
  cases he with
  | restart => exact hreset
  | drop _ ha => exact hg.pieces_carry (.inr ⟨rfl, by simp [ha]⟩) item
  | take => exact hg.pieces_carry (.inl rfl) item
  | unlock => simp only [pieces, World.pieces_unlock]
  | _ => rfl

theorem Sound.pieces_turned {g after : Game} {lines : Lines} (hg : g.Sound)
    (ht : g.Turned lines after) {item : String}
    (hreset : g.reset.game.pieces item = g.pieces item) : after.pieces item = g.pieces item := by
  cases ht with
  | nothing => rfl
  | answer => rfl
  | queued _ hp => cases hp <;> rfl
  | scripted _ hp => cases hp <;> rfl
  | line _ _ he => exact hg.pieces_effect he hreset

theorem Sound.pieces_move {g : Game} (hg : g.Sound) (m : Move) {item : String}
    (hreset : g.reset.game.pieces item = g.pieces item) :
    (g.move m).pieces item = g.pieces item := by
  cases m with
  | reset => exact hreset
  | execute text => exact hg.pieces_effect (g.execute_effect text) hreset
  | tick lines => exact hg.pieces_turned (g.tick_turned lines) hreset

theorem pieces_fresh (g : Game) (w : World) (item : String) :
    (g.fresh w).pieces item = w.pieces item := by
  simp [pieces, fresh, Session.start, Holdings.amount]

/-- A game of a document in which there is as much of each item as in the document's world. -/
structure Tallied (document : Node) (w : World) (g : Game) : Prop where
  steady : g.Steady
  document : g.document = document
  pieces : ∀ item, g.pieces item = w.pieces item

theorem Tallied.move {document : Node} {w : World} (hload : World.load document.worldRoot = .ok w)
    (g : Game) (m : Move) (h : g.Tallied document w) : (g.move m).Tallied document w := by
  refine ⟨h.steady.move m, (g.move_sameStory m).document.trans h.document, fun item => ?_⟩
  have hreset : g.reset.game.pieces item = g.pieces item := by
    rw [reset_game (h.document ▸ hload), pieces_fresh, h.pieces]
  exact (h.steady.sound.pieces_move m hreset).trans (h.pieces item)

theorem Tallied.after {document : Node} {w : World} (hload : World.load document.worldRoot = .ok w)
    {g : Game} (h : g.Tallied document w) (moves : List Move) :
    (g.after moves).Tallied document w :=
  after_keeps (Tallied.move hload) h moves

theorem ofDocument_tallied {document : Node} {catalogue : Catalogue} {traced : Bool} {o : Outcome}
    (h : ofDocument document catalogue traced = .ok o) {w : World}
    (hw : World.ofDocument document = .ok w) : o.game.Tallied document w := by
  obtain ⟨v, hv, hgame⟩ := ofDocument_ok h
  cases hw.symm.trans hv
  refine ⟨ofDocument_steady h, by rw [hgame], fun item => ?_⟩
  rw [hgame]
  exact pieces_fresh ⟨document, w, Session.start none, catalogue, traced⟩ w item

/-- Whatever is played, and however a step breaks off, there are as many pieces of each item as in
the world that was loaded. -/
theorem play_keeps_pieces {document : Node} {catalogue : Catalogue} {traced : Bool} {o : Outcome}
    (h : ofDocument document catalogue traced = .ok o) :
    ∃ w, World.ofDocument document = .ok w ∧
      ∀ moves item, (o.game.after moves).pieces item = w.pieces item := by
  obtain ⟨w, hw, hgame⟩ := ofDocument_ok h
  have hstart : o.game.Tallied document w := by
    refine ⟨ofDocument_steady h, by rw [hgame], fun item => ?_⟩
    rw [hgame]
    exact pieces_fresh ⟨document, w, Session.start none, catalogue, traced⟩ w item
  have hload := (World.ofDocument_ok.mp hw).2
  exact ⟨w, hw, fun moves item => (after_keeps (Tallied.move hload) hstart moves).pieces item⟩

def errand : List Move := [.tick [], .tick [], .tick [], .tick [some "1"], .tick [], .tick [],
  .execute "take coin", .tick [some "go north"], .execute "drop coin"]

theorem play_keeps_pieces_sample : ∃ o, ofDocument Sample.document Catalogue.english false = .ok o ∧
    ((o.game.after errand).world.area? "hall").map (·.pieces "coin") = some 3 ∧
    (o.game.after errand).pieces "coin" = 5 := by
  have hrun : (ofDocument Sample.document Catalogue.english false).toOption.any fun o =>
      ((o.game.after errand).world.area? "hall").map (·.pieces "coin") == some 3 := by
    decide +kernel
  have hworld : (World.ofDocument Sample.document).toOption.any fun w => w.pieces "coin" == 5 := by
    decide +kernel
  cases h : ofDocument Sample.document Catalogue.english false with
  | error e => simp [h, Except.toOption] at hrun
  | ok o =>
    obtain ⟨w, hw, hcount⟩ := play_keeps_pieces h
    simp only [h, Except.toOption, Option.any_some, beq_iff_eq] at hrun
    simp only [hw, Except.toOption, Option.any_some, beq_iff_eq] at hworld
    exact ⟨o, rfl, hrun, (hcount errand "coin").trans hworld⟩

end Game

end Fabula

import Fabula.Proofs.Door

set_option autoImplicit false

namespace Fabula

def Fixture.emptied (f : Fixture) : Fixture := { f with items := [] }

theorem map_modify_same {α β : Type} {f : α → α} {h : α → β} (hf : ∀ x, h (f x) = h x)
    (l : List α) (i : Nat) : (l.modify i f).map h = l.map h := by
  induction l generalizing i with
  | nil => simp
  | cons x l ih => cases i <;> simp [hf, ih]

/-- An area with nothing in it and every exit shut. -/
def Area.outline (a : Area) : Area :=
  { a with exits := a.exits.map Exit.shut, items := [], fixtures := a.fixtures.map Fixture.emptied }

namespace World

/-- A change of an area does not matter to what it leaves alone. -/
theorem area?_changeArea_same {α : Type} {f : Area → Area} {h : Area → α}
    (hf : ∀ a, h (f a) = h a) (w : World) (id x : String) :
    ((w.changeArea id f).area? x).map h = (w.area? x).map h := by
  rw [area?_changeArea]
  by_cases hx : id = x
  · rw [if_pos hx]
    cases w.area? x with
    | none => rfl
    | some a => simp [hf]
  · rw [if_neg hx]

structure SameOutline (w v : World) : Prop where
  items : v.items = w.items
  scenes : v.scenes = w.scenes
  areas : ∀ id, (v.area? id).map Area.outline = (w.area? id).map Area.outline

namespace SameOutline

variable {u v w : World}

theorem refl (w : World) : w.SameOutline w := ⟨rfl, rfl, fun _ => rfl⟩

theorem trans (h : u.SameOutline v) (h' : v.SameOutline w) : u.SameOutline w :=
  ⟨h'.items.trans h.items, h'.scenes.trans h.scenes, fun id => (h'.areas id).trans (h.areas id)⟩

theorem changeArea {f : Area → Area} (hf : ∀ a, (f a).outline = a.outline) (w : World)
    (id : String) : w.SameOutline (w.changeArea id f) :=
  ⟨rfl, rfl, area?_changeArea_same hf w id⟩

theorem unlock (w : World) (id : String) (i : Nat) : w.SameOutline (w.unlock id i) := by
  rw [World.unlock]
  cases (w.area? id).bind (·.exits[i]?) with
  | none => exact .refl w
  | some e =>
    refine (changeArea (fun a => ?_) w id).trans (changeArea (fun a => ?_) _ e.target)
    · have hopened : ∀ e : Exit, e.opened.shut = e.shut := fun _ => rfl
      have hexits := map_modify_same hopened a.exits i
      exact congrArg (fun exits => ({ a.outline with exits } : Area)) hexits
    · have hshut : (a.exits.map fun back =>
          if back.target = id ∧ back.kind = e.kind then back.opened else back).map Exit.shut =
            a.exits.map Exit.shut := by
        rw [List.map_map]
        refine List.map_congr_left fun back _ => ?_
        rw [Function.comp_apply]
        split <;> rfl
      exact congrArg (fun exits => ({ a.outline with exits } : Area)) hshut

/-- What is found in a world that has an outline in common with another one. -/
theorem area? (h : w.SameOutline v) {id : String} {a : Area} (ha : v.area? id = some a) :
    ∃ b, w.area? id = some b ∧ a.outline = b.outline := by
  have houtline := h.areas id
  rw [ha, Option.map_some] at houtline
  obtain ⟨b, hb, hab⟩ := Option.map_eq_some_iff.mp houtline.symm
  exact ⟨b, hb, hab.symm⟩

end SameOutline

end World

namespace Game

theorem changeHoldings_outline (g : Game) (place : Place) (f : Holdings → Holdings) :
    g.world.SameOutline (g.changeHoldings place f).world := by
  have hleft := g.changeHoldings_rearranged place f
  generalize g.changeHoldings place f = after at *
  cases hleft with
  | bag => exact .refl _
  | nowhere => exact .refl _
  | @ground id =>
    exact .changeArea (f := fun a => { a with items := f a.items }) (fun a => rfl) g.world id
  | @fixture id i =>
    refine .changeArea (fun a => ?_) _ _
    have hemptied : ∀ x : Fixture,
        Fixture.emptied { x with items := f x.items } = x.emptied := fun _ => rfl
    have hfixtures := map_modify_same hemptied a.fixtures i
    exact congrArg (fun fixtures => ({ a.outline with fixtures } : Area)) hfixtures

theorem carry_outline (g : Game) (item : String) (source target : Place) :
    g.world.SameOutline (g.carry item source target).world :=
  (g.changeHoldings_outline source (·.remove item 1)).trans
    ((g.changeHoldings source (·.remove item 1)).changeHoldings_outline target
      (·.add item ((g.surroundings.holdings source).removable item 1)))

theorem execute_outline {g : Game} {text : String} (hr : g.startsOver text = false) :
    g.world.SameOutline (g.execute text).outcome.game.world := by
  by_cases hopens : ∃ id i e, g.Opens (Line.ofText text) id i e
  · obtain ⟨id, i, e, ho⟩ := hopens
    rw [ho.execute]
    exact .unlock g.world id i
  · simp only [not_exists] at hopens
    rcases execute_world hr hopens with hworld | ⟨item, source, target, hcarry⟩
    · rw [hworld]
      exact .refl _
    · rw [hcarry]
      exact g.carry_outline item source target

/-- A move keeps the outline, and a new start brings back that of the world that is loaded. -/
theorem move_outline {g : Game} {w : World} (hload : World.load g.document.worldRoot = .ok w)
    (h : w.SameOutline g.world) (m : Move) : w.SameOutline (g.move m).world := by
  cases hr : g.restarts m with
  | true =>
    rw [restarts_move hr, reset_game hload]
    exact .refl w
  | false =>
    cases hm : g.heard? m with
    | none => rw [move_world hm hr]; exact h
    | some l =>
      obtain ⟨text, -, hmove, hstarts⟩ := move_heard hm
      rw [hmove]
      exact h.trans (execute_outline (hstarts ▸ hr))

theorem after_outline {document : Node} {catalogue : Catalogue} {traced : Bool} {o : Outcome}
    (h : ofDocument document catalogue traced = .ok o) {w : World}
    (hw : World.ofDocument document = .ok w) (moves : List Move) :
    w.SameOutline (o.game.after moves).world := by
  obtain ⟨w', hw', hgame⟩ := ofDocument_ok h
  obtain rfl := Except.ok.inj (hw.symm.trans hw')
  have hload := (World.ofDocument_ok.mp hw).2
  have hkeeps : ∀ (g : Game) (m : Move), g.document = document ∧ w.SameOutline g.world →
      (g.move m).document = document ∧ w.SameOutline (g.move m).world := by
    rintro g m ⟨hdocument, houtline⟩
    exact ⟨(g.move_sameStory m).document.trans hdocument,
      move_outline (hdocument ▸ hload) houtline m⟩
  have hstart : o.game.document = document ∧ w.SameOutline o.game.world := by
    rw [hgame]
    exact ⟨rfl, .refl w⟩
  exact (after_keeps hkeeps hstart moves).2

end Game

end Fabula

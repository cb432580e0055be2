import Fabula.Proofs.Twin

set_option autoImplicit false

namespace Fabula

def Area.openBack (a : Area) (id kind : String) : Area :=
  { a with exits := a.exits.map fun back =>
      if back.target = id ∧ back.kind = kind then back.opened else back }

/-- With an exit only those that lead back come open in the areas away from it. -/
theorem World.area?_unlock {w : World} {id : String} {i : Nat} {e : Exit}
    (he : w.exit? id i = some e) {x : String} (hx : id ≠ x) : (w.unlock id i).area? x =
      if e.target = x then (w.area? x).map (·.openBack id e.kind) else w.area? x := by
  rw [unlock, show (w.area? id).bind (·.exits[i]?) = some e from he]
  simp only [area?_changeArea, if_neg hx]
  rfl

namespace Game

/-- What a line leaves of the areas that the player is not in. With an exit those of its kind that
lead back from its target come open; otherwise nothing changes there. -/
def KeepsElsewhere (g : Game) (l : Line) (after : Game) : Prop :=
  ∀ x, g.session.area ≠ some x → after.world.area? x = g.world.area? x ∨
    ∃ id i e, g.Opens l id i e ∧ e.target = x ∧
      after.world.area? x = (g.world.area? x).map (·.openBack id e.kind)

section

variable {g : Game}

theorem area?_changeHoldings (place : Place) (f : Holdings → Holdings) {x : String}
    (hx : g.session.area ≠ some x) :
    (g.changeHoldings place f).world.area? x = g.world.area? x := by
  have hleft := g.changeHoldings_rearranged place f
  generalize g.changeHoldings place f = after at *
  have hapart : ∀ id, g.session.area = some id → id ≠ x := by
    rintro id hid rfl
    exact hx hid
  cases hleft with
  | bag => rfl
  | nowhere => rfl
  | ground hid => rw [World.area?_changeArea, if_neg (hapart _ hid)]
  | fixture hid => rw [World.area?_changeArea, if_neg (hapart _ hid)]

theorem area?_carry (item : String) (source target : Place) {x : String}
    (hx : g.session.area ≠ some x) :
    (g.carry item source target).world.area? x = g.world.area? x := by
  obtain ⟨bag, hbag⟩ := g.changeHoldings_session source (·.remove item 1)
  rw [carry, area?_changeHoldings target _ (by rw [hbag]; exact hx),
    area?_changeHoldings source _ hx]

theorem execute_keepsElsewhere {text : String} (hr : g.startsOver text = false) :
    g.KeepsElsewhere (Line.ofText text) (g.execute text).outcome.game := by
  intro x hx
  by_cases hopens : ∃ id i e, g.Opens (Line.ofText text) id i e
  · obtain ⟨id, i, e, ho⟩ := hopens
    have hapart : id ≠ x := by
      rintro rfl
      exact hx ho.here
    rw [ho.execute, World.area?_unlock ho.exit hapart]
    by_cases htarget : e.target = x
    · exact .inr ⟨id, i, e, ho, htarget, if_pos htarget⟩
    · exact .inl (if_neg htarget)
  · simp only [not_exists] at hopens
    left
    rcases execute_world hr hopens with hworld | ⟨item, source, target, hcarry⟩
    · rw [hworld]
    · rw [hcarry, area?_carry _ _ _ hx]

end

/-- Games with the same session, the same items and the same area around the player. Of the other
areas, what is in them may differ. -/
def AgreeHere (g h : Game) : Prop := g.Twin (g.session.area = some ·) h

theorem agreeHere_changeArea {g : Game} {id : String} (hid : g.session.area ≠ some id)
    {f : Area → Area} (hf : ∀ a, (f a).id = a.id) :
    g.AgreeHere { g with world := g.world.changeArea id f } := by
  refine ⟨rfl, rfl, rfl, fun x => rfl, fun x hx => ?_, fun x => ?_⟩
  · have hapart : id ≠ x := by
      rintro rfl
      exact hid hx
    rw [World.area?_changeArea, if_neg hapart]
  · rw [World.area?_changeArea]
    split <;> simp [Function.comp_def, hf]

/-- A line other than `restart` shows the same in games that agree on the area around. They agree on
that area afterwards, and on the session; in each of the games no other area changes, but for exits
that come open. -/
theorem execute_local {g h : Game} (ha : g.AgreeHere h) {text : String}
    (hr : (Line.ofText text).verb ≠ "restart") :
    (g.execute text).understood = (h.execute text).understood ∧
    (g.execute text).outcome.events = (h.execute text).outcome.events ∧
    (g.execute text).outcome.fault = (h.execute text).outcome.fault ∧
    (g.execute text).outcome.game.session = (h.execute text).outcome.game.session ∧
    (∀ id, g.session.area = some id → (g.execute text).outcome.game.world.area? id =
      (h.execute text).outcome.game.world.area? id) ∧
    g.KeepsElsewhere (Line.ofText text) (g.execute text).outcome.game ∧
    h.KeepsElsewhere (Line.ofText text) (h.execute text).outcome.game := by
  obtain ⟨hunderstood, htwin⟩ := Twin.execute ha (fun _ hid => hid) hr
  have hgoes : ∀ k : Game, k.startsOver text = false := fun k => by simp [startsOver, hr]
  exact ⟨hunderstood, htwin.events, htwin.fault, htwin.game.session, htwin.game.world.area,
    execute_keepsElsewhere (hgoes g), execute_keepsElsewhere (hgoes h)⟩

theorem execute_local_sample : ∃ o, ofDocument Sample.document Catalogue.english false = .ok o ∧
    let g := o.game.after (arrival ++ [.execute "go north", .execute "take key from rack"])
    let h : Game := { g with world := g.world.changeArea "cellar" fun a =>
      { a with items := [("coin", 1)] } }
    g.AgreeHere h ∧ g.world.area? "cellar" ≠ h.world.area? "cellar" ∧
    (∃ i e, g.Opens (Line.ofText "open down") "hall" i e ∧ e.target = "cellar") ∧
    (g.execute "open down").outcome.events = (h.execute "open down").outcome.events ∧
    g.KeepsElsewhere (Line.ofText "open down") (g.execute "open down").outcome.game := by
  have hrun : (ofDocument Sample.document Catalogue.english false).toOption.any (fun o =>
      let g := o.game.after (arrival ++ [.execute "go north", .execute "take key from rack"])
      g.session.area == some "hall" && g.session.bag.has "key" &&
        g.world.area? "cellar" != (g.world.changeArea "cellar" fun a =>
          { a with items := [("coin", 1)] }).area? "cellar" &&
        ((g.world.area? "hall").bind (·.exitTo? "down")) == some 1 &&
        (g.world.exit? "hall" 1).any fun e =>
          e.target == "cellar" && !e.isOpen && e.key == some "key") = true := by decide +kernel
  obtain ⟨o, ho, hrun⟩ := opens_with hrun
  refine ⟨o, ho, ?_⟩
  intro g h
  simp only [Bool.and_eq_true, beq_iff_eq, bne_iff_ne, Option.any_eq_true] at hrun
  obtain ⟨⟨⟨⟨hhere, hkey⟩, hapart⟩, hfirst⟩, e, he, ⟨htarget, hshut⟩, hneeds⟩ := hrun
  have hagree : g.AgreeHere h := agreeHere_changeArea (by rw [hhere]; decide) fun a => rfl
  have hline : Line.ofText "open down" = ⟨"open", ["down"]⟩ := by decide +kernel
  have hopens : g.Opens (Line.ofText "open down") "hall" 1 e := by
    rw [hline]
    exact {
      verb := rfl
      asked := by simp
      here := hhere
      first := hfirst
      exit := he
      shut := by simpa using hshut
      key := by
        intro key hk
        rw [← Option.some.inj (hneeds.symm.trans hk)]
        exact hkey }
  have hlocal := @execute_local g h hagree "open down" (by rw [hline]; decide)
  exact ⟨hagree, hapart, ⟨1, e, hopens, htarget⟩, hlocal.2.1, hlocal.2.2.2.2.2.1⟩

end Game

end Fabula

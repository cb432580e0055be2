import Fabula.Proofs.Door

/-!
Twins: two games that look the same to the player. What a line does shows the same in both of them,
and leaves twins again. Of areas that the player is not in, twins may disagree.
-/

set_option autoImplicit false

namespace Fabula

namespace Surroundings

structure Twin (s t : Surroundings) : Prop where
  item : ∀ id, s.items.get? id = t.items.get? id
  bag : s.bag = t.bag
  area : s.area = t.area

section

variable {s t : Surroundings}

theorem Twin.holdings (h : s.Twin t) (place : Place) : s.holdings place = t.holdings place := by
  cases place <;> simp only [Surroundings.holdings, h.bag, h.area]

theorem Twin.itemMeant? (h : s.Twin t) (word : String) (n : Nat) (listed : Holdings) :
    s.itemMeant? word n listed = t.itemMeant? word n listed := by
  induction listed generalizing n with
  | nil => rfl
  | cons row rest ih =>
    obtain ⟨id, amount⟩ := row
    simp only [Surroundings.itemMeant?, h.item, ih]

theorem Twin.itemIn? (h : s.Twin t) (place : Place) (word : String) :
    s.itemIn? place word = t.itemIn? place word := by
  rw [Surroundings.itemIn?, Surroundings.itemIn?, h.holdings, h.itemMeant?]

theorem Twin.target? (h : s.Twin t) (args : List String) : s.target? args = t.target? args := by
  simp only [Surroundings.target?, Surroundings.source?, Surroundings.fixtureTarget?, h.area,
    h.itemIn?]

end

end Surroundings

namespace World

/-- Worlds with the same items, and with the same areas near to the player. Areas far away go by the
same ids. -/
structure Twin (near : String → Prop) (w v : World) : Prop where
  item : ∀ id, w.item? id = v.item? id
  area : ∀ id, near id → w.area? id = v.area? id
  id : ∀ id, (w.area? id).map (·.id) = (v.area? id).map (·.id)

section

variable {near : String → Prop} {w v : World}

theorem Twin.changeArea (h : w.Twin near v) (id : String) {f : Area → Area}
    (hf : ∀ a, (f a).id = a.id) : (w.changeArea id f).Twin near (v.changeArea id f) := by
  refine ⟨h.item, fun x hx => ?_, fun x => ?_⟩
  · rw [area?_changeArea, area?_changeArea, h.area x hx]
  · rw [area?_changeArea, area?_changeArea]
    by_cases hx : id = x
    · simpa [hx, Function.comp_def, hf] using h.id x
    · simpa [hx] using h.id x

theorem Twin.unlock (h : w.Twin near v) {id : String} (hid : near id) (i : Nat) :
    (w.unlock id i).Twin near (v.unlock id i) := by
  rw [World.unlock, World.unlock, h.area id hid]
  split
  · exact h
  · next e _ => exact (h.changeArea id (by exact fun a => rfl)).changeArea e.target fun a => rfl

theorem Twin.itemName (h : w.Twin near v) (id : String) : w.itemName id = v.itemName id := by
  rw [World.itemName, World.itemName, h.item]

end

end World

namespace Game

structure Twin (near : String → Prop) (g h : Game) : Prop where
  session : g.session = h.session
  catalogue : g.catalogue = h.catalogue
  traced : g.traced = h.traced
  world : g.world.Twin near h.world

def IsNear (near : String → Prop) (g : Game) : Prop := ∀ id, g.session.area = some id → near id

section

variable {near : String → Prop} {g h : Game}

theorem Twin.area? (ht : g.Twin near h) (hg : g.IsNear near) : g.area? = h.area? := by
  rw [Game.area?, Game.area?, ← ht.session]
  cases hid : g.session.area with
  | none => rfl
  | some id => exact ht.world.area id (hg id hid)

theorem Twin.surroundings (ht : g.Twin near h) (hg : g.IsNear near) :
    g.surroundings.Twin h.surroundings :=
  ⟨ht.world.item, by rw [Game.surroundings, ht.session]; rfl, ht.area? hg⟩

theorem Twin.itemName (ht : g.Twin near h) : g.itemName = h.itemName := by
  funext id
  rw [Game.itemName, Game.itemName, ht.world.itemName]

theorem Twin.listing (ht : g.Twin near h) (key : String) (listed : Holdings) :
    g.listing key listed = h.listing key listed := by
  simp only [Game.listing, ht.itemName]

theorem Twin.message (ht : g.Twin near h) : g.message = h.message := by
  funext key
  rw [Game.message, Game.message, ht.catalogue]

theorem Twin.filler (ht : g.Twin near h) : g.filler = h.filler := by
  funext f
  cases f <;> simp only [Game.filler, ht.message]

theorem Twin.fields (ht : g.Twin near h) (fs : List (String × Filler)) :
    g.fields fs = h.fields fs := by
  induction fs with
  | nil => rfl
  | cons f fs ih => simp only [Game.fields, ht.filler, ih]

theorem Twin.filled (ht : g.Twin near h) (key : String) (fs : List (String × Filler)) :
    g.filled key fs = h.filled key fs := by
  simp only [Game.filled, ht.message, ht.fields]

theorem Twin.quitQuestion (ht : g.Twin near h) : g.quitQuestion = h.quitQuestion := by
  simp only [Game.quitQuestion, ht.message]

theorem Twin.verb (ht : g.Twin near h) (hg : g.IsNear near) (v : Verb) (args : List String) :
    v.deeds args g = v.deeds args h := by
  have hs := ht.surroundings hg
  have harea := ht.area? hg
  have hname := ht.itemName
  cases v with
  | restart | quit => rfl
  | items => simp only [Verb.deeds, listBag, ht.session, hname]
  | drop => simp only [Verb.deeds, dropItem, harea, hs.itemIn?]
  | take => simp only [Verb.deeds, takeItem, hs.target?]
  | examine => simp only [Verb.deeds, Game.examine, hs.target?, ht.listing]
  | go => simp only [Verb.deeds, Game.go, harea, direction?, ht.session]
  | unlock => simp only [Verb.deeds, Game.unlock, harea, lacksKey, ht.session, hname]
  | look => simp only [Verb.deeds, Game.look, harea, ht.listing]

theorem Twin.deeds? (ht : g.Twin near h) (hg : g.IsNear near) (l : Line) :
    l.deeds? g = l.deeds? h := by
  simp only [Line.deeds?, ht.verb hg]

theorem Twin.changeSession (ht : g.Twin near h) {f f' : Session → Session}
    (hf : f g.session = f' g.session) : (g.changeSession f).Twin near (h.changeSession f') :=
  ⟨by simp only [Game.changeSession, hf, ← ht.session], ht.catalogue, ht.traced, ht.world⟩

theorem Twin.changeArea (ht : g.Twin near h) (id : String) {f : Area → Area}
    (hf : ∀ a, (f a).id = a.id) : ({ g with world := g.world.changeArea id f } : Game).Twin near
      { h with world := h.world.changeArea id f } :=
  ⟨ht.session, ht.catalogue, ht.traced, ht.world.changeArea id hf⟩

theorem Twin.changeHoldings (ht : g.Twin near h) (place : Place) (f : Holdings → Holdings) :
    (g.changeHoldings place f).Twin near (h.changeHoldings place f) := by
  have hsame : h.session.area = g.session.area := by rw [ht.session]
  unfold Game.changeHoldings
  cases hid : g.session.area with
  | none =>
    simp only [hsame, hid]
    cases place with
    | bag => exact ht.changeSession rfl
    | ground => exact ht
    | fixture i => exact ht
  | some id =>
    simp only [hsame, hid]
    cases place with
    | bag => exact ht.changeSession rfl
    | ground => exact ht.changeArea id (by exact fun a => rfl)
    | fixture i => exact ht.changeArea id (by exact fun a => rfl)

theorem Twin.carry (ht : g.Twin near h) (hg : g.IsNear near) (item : String)
    (source target : Place) :
    (g.carry item source target).Twin near (h.carry item source target) := by
  rw [Game.carry, Game.carry, (ht.surroundings hg).holdings]
  exact (ht.changeHoldings source _).changeHoldings target _

theorem Twin.noteText (ht : g.Twin near h) {n : Note} (hg : n = .bagAndGround → g.IsNear near) :
    g.noteText n = h.noteText n := by
  cases n with
  | line => rfl
  | bag => simp only [Game.noteText, ht.session]
  | bagAndGround =>
    simp only [Game.noteText, ht.session, (ht.surroundings (hg rfl)).holdings]

end

end Game

structure Outcome.Twin (near : String → Prop) (o p : Outcome) : Prop where
  game : o.game.Twin near p.game
  events : o.events = p.events
  fault : o.fault = p.fault

section

variable {near : String → Prop} {g h : Game}

theorem Outcome.Twin.next {o p : Outcome} (hop : o.Twin near p) {step step' : Game → Outcome}
    (hstep : (step o.game).Twin near (step' p.game)) :
    (o.next step).Twin near (p.next step') := by
  unfold Outcome.next
  rw [← hop.fault]
  cases hfault : o.fault with
  | some fault => exact hop
  | none => exact ⟨hstep.game, congrArg₂ _ hop.events hstep.events, hstep.fault⟩

theorem Game.Twin.done (ht : g.Twin near h) : (Outcome.done g).Twin near (.done h) := ⟨ht, rfl, rfl⟩

theorem Game.Twin.failed (ht : g.Twin near h) (fault : Fault) :
    (Outcome.failed g fault).Twin near (.failed h fault) := ⟨ht, rfl, rfl⟩

theorem Game.Twin.trace (ht : g.Twin near h) (topic : Topic) (line : String) :
    (g.trace topic line).Twin near (h.trace topic line) :=
  ⟨ht, by simp only [Game.trace, ht.traced], rfl⟩

theorem Game.Twin.showing (ht : g.Twin near h) (text : Except Fault String) :
    (g.showing text).Twin near (h.showing text) := by
  cases text with
  | ok text => exact ⟨ht, rfl, rfl⟩
  | error fault => exact ht.failed fault

namespace Deed

def touches : Deed → Bool
  | carry .. | unlock _ | restart | note .bagAndGround => true
  | tell _ | say _ | fill .. | offer .. | enter _ | walk .. | forgetHeading | askToQuit | finish
  | stumble | note (.line ..) | note .bag => false

def travels : Deed → Bool
  | enter _ | walk .. | restart => true
  | tell _ | say _ | fill .. | offer .. | carry .. | forgetHeading | unlock _ | askToQuit | finish
  | stumble | note _ => false

theorem travels_of_quiet {d : Deed} (hd : d.IsQuiet = true) : d.travels = false := by
  cases d <;> first | rfl | cases hd

theorem perform_area {d : Deed} (hd : d.travels = false) (g : Game) :
    (d.perform g).game.session.area = g.session.area := by
  cases d with
  | enter | walk | restart => cases hd
  | carry item source target =>
    obtain ⟨bag, hbag⟩ := g.carry_session item source target
    simp only [perform, Outcome.done_game, hbag]
  | unlock i =>
    cases hid : g.session.area <;> simp [perform, hid]
  | askToQuit =>
    rw [perform]
    cases g.quitQuestion <;> rfl
  | forgetHeading | finish => rfl
  | _ => rw [perform_quiet rfl]

theorem perform_twin (ht : g.Twin near h) {d : Deed}
    (hd : d.touches = false ∨ d.travels = false ∧ g.IsNear near) :
    (d.perform g).Twin near (d.perform h) := by
  have hnear : d.touches = true → g.IsNear near := by
    intro htouches
    rcases hd with hd | hd
    · simp [hd] at htouches
    · exact hd.2
  cases d with
  | tell text => exact ⟨ht, rfl, rfl⟩
  | say key =>
    rw [perform, perform, ht.message]
    exact ht.showing _
  | fill key fields =>
    rw [perform, perform, ht.filled]
    exact ht.showing _
  | offer number text =>
    rw [perform, perform, ht.catalogue]
    exact ht.showing _
  | carry item source target => exact (ht.carry (hnear rfl) item source target).done
  | enter area => exact (ht.changeSession (by rw [ht.world.id])).done
  | walk direction area => exact (ht.changeSession (by rw [ht.world.id])).done
  | forgetHeading => exact (ht.changeSession rfl).done
  | unlock i =>
    have hsame : h.session.area = g.session.area := by rw [ht.session]
    rw [perform, perform, hsame]
    cases hid : g.session.area with
    | none => exact ht.done
    | some id =>
      exact Game.Twin.done ⟨ht.session, ht.catalogue, ht.traced,
        ht.world.unlock (hnear rfl id hid) i⟩
  | askToQuit =>
    rw [perform, perform, ht.quitQuestion]
    cases h.quitQuestion with
    | ok cue => exact (ht.changeSession rfl).done
    | error fault => exact ht.failed fault
  | restart => simp [touches, travels] at hd
  | finish => exact (ht.changeSession rfl).done
  | stumble => exact ht.failed _
  | note n =>
    rw [perform, perform, ht.noteText (fun hn => hnear (by rw [hn]; rfl))]
    cases h.noteText n with
    | ok text => exact ht.trace n.topic text
    | error fault => exact ht.failed fault

end Deed

/-- Deeds that leave the area around alone do the same in twins, wherever they lead; so do those
that do not lead away from an area in which the twins agree. -/
theorem performAll_twin {ds : List Deed} (ht : g.Twin near h)
    (hds : (∀ d ∈ ds, d.touches = false) ∨ (∀ d ∈ ds, d.travels = false) ∧ g.IsNear near) :
    (performAll ds g).Twin near (performAll ds h) := by
  induction ds generalizing g h with
  | nil => exact ht.done
  | cons d ds ih =>
    simp only [List.forall_mem_cons] at hds
    have hfirst : (d.perform g).Twin near (d.perform h) :=
      Deed.perform_twin ht (hds.imp (·.1) fun hd => ⟨hd.1.1, hd.2⟩)
    refine hfirst.next (ih hfirst.game (hds.imp (·.2) fun hd => ⟨hd.1.2, ?_⟩))
    rw [Game.IsNear, Deed.perform_area hd.1.1]
    exact hd.2

theorem Cue.deeds_untouching (cue : Cue) : ∀ d ∈ cue.deeds, d.touches = false := by
  intro d hd
  cases cue with
  | narrate text => simp_all [deeds, Deed.touches]
  | enter area =>
    simp only [deeds, List.mem_cons, List.not_mem_nil, or_false] at hd
    rcases hd with rfl | rfl <;> rfl
  | pass => cases hd
  | act action =>
    cases action with
    | finish =>
      simp only [deeds, List.mem_cons, List.not_mem_nil, or_false] at hd
      rcases hd with rfl | rfl | rfl <;> rfl
    | hold done => cases hd
    | missing => simp_all [deeds, Deed.touches]
  | choose question options =>
    rcases List.mem_cons.mp hd with rfl | hd
    · rfl
    · obtain ⟨i, hi, rfl⟩ := List.mem_mapIdx.mp hd
      rfl

theorem Game.Twin.play (ht : g.Twin near h) (cue : Cue) :
    (cue.play g).Twin near (cue.play h) := by
  have hdone := performAll_twin ht (.inl cue.deeds_untouching)
  refine hdone.next ?_
  cases cue.completes with
  | true => exact hdone.game.done
  | false => exact (hdone.game.changeSession (by rw [hdone.game.session])).trace _ _

namespace Verb

theorem travels_unlock (g : Game) (args : List String) :
    ∀ d ∈ g.unlock args, d.travels = false := by
  unfold Game.unlock
  simp only
  split
  · simp [Deed.travels]
  · split
    · simp [Deed.travels]
    · split <;> simp [Deed.travels]

theorem travels_takeItem (g : Game) (args : List String) :
    ∀ d ∈ g.takeItem args, d.travels = false := by
  unfold Game.takeItem
  split <;> simp [Deed.travels]

theorem travels_dropItem (g : Game) (args : List String) :
    ∀ d ∈ g.dropItem args, d.travels = false := by
  unfold Game.dropItem
  split <;> simp [Deed.travels]

theorem touches_go (g : Game) (args : List String) : ∀ d ∈ g.go args, d.touches = false := by
  intro d hd
  unfold Game.go at hd
  simp only [List.mem_append] at hd
  rcases hd with hd | hd
  · split at hd
    · simp_all [Deed.touches]
    · split at hd <;> simp at hd <;> rcases hd with rfl | rfl | rfl <;> rfl
  · split at hd
    · rw [List.mem_singleton.mp hd]
      rfl
    · cases hd

/-- A command either leaves the area around alone, or stays in it. -/
theorem deeds_local {v : Verb} (hv : v ≠ .restart) (args : List String) (g : Game) :
    (∀ d ∈ v.deeds args g, d.touches = false) ∨ (∀ d ∈ v.deeds args g, d.travels = false) := by
  cases v with
  | restart => exact absurd rfl hv
  | quit => exact .inr (by simp [deeds, Deed.travels])
  | items => exact .inr fun d hd => Deed.travels_of_quiet (g.listBag_quiet d hd)
  | examine => exact .inr fun d hd => Deed.travels_of_quiet (g.examine_quiet args d hd)
  | look => exact .inr fun d hd => Deed.travels_of_quiet (g.look_quiet d hd)
  | drop => exact .inr (travels_dropItem g args)
  | take => exact .inr (travels_takeItem g args)
  | unlock => exact .inr (travels_unlock g args)
  | go => exact .inl (touches_go g args)

end Verb

/-- A line other than `restart` shows the same in twins, and leaves twins. -/
theorem Game.Twin.execute (ht : g.Twin near h) (hg : g.IsNear near) {text : String}
    (hr : (Line.ofText text).verb ≠ "restart") :
    (g.execute text).understood = (h.execute text).understood ∧
      (g.execute text).outcome.Twin near (h.execute text).outcome := by
  unfold Game.execute
  simp only [ht.deeds? hg]
  by_cases hblank : (Line.ofText text).verb = ""
  · simp only [hblank, if_true, true_and]
    exact ht.done
  · simp only [hblank, if_false]
    cases hd : (Line.ofText text).deeds? h with
    | none => exact ⟨rfl, (ht.trace _ _).next (Deed.perform_twin ht (.inl rfl))⟩
    | some ds =>
      refine ⟨rfl, (ht.trace _ _).next (performAll_twin ht ?_)⟩
      obtain ⟨v, hv, hds⟩ := Option.bind_eq_some_iff.mp hd
      split at hds
      · cases hds
      · cases hds
        have hv' : v ≠ .restart := by
          rintro rfl
          exact hr (word_of_verb hv)
        exact (v.deeds_local hv' _ h).imp id fun hstay => ⟨hstay, hg⟩

end

end Fabula

import Fabula.Proofs.Effect
import Fabula.Proofs.Loading
import Fabula.Proofs.Template

set_option autoImplicit false

namespace Fabula

/-- A step from outside: a turn with the lines at hand, a line given directly, or a new start. -/
inductive Move where
  | tick (lines : Lines)
  | execute (text : String)
  | reset
  deriving Repr, DecidableEq

namespace Game

def move (g : Game) : Move → Game
  | .tick lines => (g.tick lines).outcome.game
  | .execute text => (g.execute text).outcome.game
  | .reset => g.reset.game

def after (g : Game) (moves : List Move) : Game := moves.foldl move g

/-- What holds at the start and is kept by each move holds after any moves. -/
theorem after_keeps {P : Game → Prop} (step : ∀ g m, P g → P (g.move m)) {g : Game} (hg : P g)
    (moves : List Move) : P (g.after moves) := by
  induction moves generalizing g with
  | nil => exact hg
  | cons m moves ih => exact ih (step g m hg)

inductive Rearranged (g : Game) (f : Holdings → Holdings) : Place → Game → Prop where
  | bag : Rearranged g f .bag (g.changeSession fun s => { s with bag := f s.bag })
  | nowhere {place : Place} : g.session.area = none → place ≠ .bag → Rearranged g f place g
  | ground {id : String} : g.session.area = some id → Rearranged g f .ground
      { g with world := g.world.changeArea id fun a => { a with items := f a.items } }
  | fixture {id : String} {i : Nat} : g.session.area = some id → Rearranged g f (.fixture i)
      { g with world := g.world.changeArea id fun a =>
        { a with fixtures := a.fixtures.modify i fun x => { x with items := f x.items } } }

theorem changeHoldings_rearranged (g : Game) (place : Place) (f : Holdings → Holdings) :
    g.Rearranged f place (g.changeHoldings place f) := by
  unfold changeHoldings
  cases place with
  | bag => exact .bag
  | ground =>
    cases hid : g.session.area with
    | none => exact .nowhere hid (by simp)
    | some id => exact .ground hid
  | fixture i =>
    cases hid : g.session.area with
    | none => exact .nowhere hid (by simp)
    | some id => exact .fixture hid

/-- What play does not change. -/
structure SameStory (g h : Game) : Prop where
  document : h.document = g.document
  catalogue : h.catalogue = g.catalogue
  traced : h.traced = g.traced

theorem SameStory.refl (g : Game) : g.SameStory g := ⟨rfl, rfl, rfl⟩

theorem SameStory.trans {g h k : Game} (hg : g.SameStory h) (hh : h.SameStory k) :
    g.SameStory k :=
  ⟨hh.document.trans hg.document, hh.catalogue.trans hg.catalogue, hh.traced.trans hg.traced⟩

theorem SameStory.changeHoldings (g : Game) (place : Place) (f : Holdings → Holdings) :
    g.SameStory (g.changeHoldings place f) := by
  have hleft := g.changeHoldings_rearranged place f
  generalize g.changeHoldings place f = after at *
  cases hleft <;> exact ⟨rfl, rfl, rfl⟩

theorem SameStory.carry (g : Game) (item : String) (source target : Place) :
    g.SameStory (g.carry item source target) :=
  (SameStory.changeHoldings g source (·.remove item 1)).trans
    (SameStory.changeHoldings (g.changeHoldings source (·.remove item 1)) target
      (·.add item ((g.surroundings.holdings source).removable item 1)))

theorem changeHoldings_session (g : Game) (place : Place) (f : Holdings → Holdings) :
    ∃ bag, (g.changeHoldings place f).session = { g.session with bag } := by
  have hleft := g.changeHoldings_rearranged place f
  generalize g.changeHoldings place f = after at *
  cases hleft with
  | bag => exact ⟨f g.session.bag, rfl⟩
  | _ => exact ⟨g.session.bag, rfl⟩

theorem carry_session (g : Game) (item : String) (source target : Place) :
    ∃ bag, (g.carry item source target).session = { g.session with bag } := by
  obtain ⟨less, hless⟩ := g.changeHoldings_session source (·.remove item 1)
  obtain ⟨bag, hbag⟩ := (g.changeHoldings source (·.remove item 1)).changeHoldings_session target
    (·.add item ((g.surroundings.holdings source).removable item 1))
  exact ⟨bag, by rw [carry, hbag, hless]⟩

/-- What a line can leave of a session. -/
inductive Leaves (g : Game) (l : Line) : Session → Prop where
  | restart : l.verb = "restart" → (g.catalogue.get? "restarted").isSome →
      Leaves g l g.reset.game.session
  | quit {question : Cue} : l.verb = "quit" → g.quitQuestion = .ok question →
      Leaves g l (g.session.push question)
  | moved {area : Option String} {bag : Holdings} {heading : Option String} :
      Leaves g l { g.session with area, bag, heading }

theorem Effect.leaves {g after : Game} {l : Line} (he : g.Effect l after) :
    g.Leaves l after.session := by
  cases he with
  | restart hl hm => exact .restart hl hm
  | quit hl hq => exact .quit hl hq
  | drop =>
    obtain ⟨bag, hbag⟩ := g.carry_session _ .bag .ground
    rw [hbag]
    exact .moved
  | take =>
    obtain ⟨bag, hbag⟩ := g.carry_session _ _ .bag
    rw [hbag]
    exact .moved
  | _ => exact .moved

theorem SameStory.reset (g : Game) : g.SameStory g.reset.game := by
  unfold Game.reset
  cases World.load g.document.worldRoot <;> exact ⟨rfl, rfl, rfl⟩

theorem Effect.sameStory {g after : Game} {l : Line} (he : g.Effect l after) :
    g.SameStory after := by
  cases he with
  | restart => exact .reset g
  | drop => exact .carry g _ _ _
  | take => exact .carry g _ _ _
  | _ => exact ⟨rfl, rfl, rfl⟩

theorem Turned.sameStory {g after : Game} {lines : Lines} (ht : g.Turned lines after) :
    g.SameStory after := by
  cases ht with
  | nothing => exact .refl g
  | answer => exact ⟨rfl, rfl, rfl⟩
  | queued _ hp => cases hp <;> exact ⟨rfl, rfl, rfl⟩
  | scripted _ hp => cases hp <;> exact ⟨rfl, rfl, rfl⟩
  | line _ _ he => exact he.sameStory

theorem move_sameStory (g : Game) (m : Move) : g.SameStory (g.move m) := by
  cases m with
  | tick lines => exact (g.tick_turned lines).sameStory
  | execute text => exact (g.execute_effect text).sameStory
  | reset => exact .reset g

def fresh (g : Game) (w : World) : Game :=
  { g with world := w, session := Session.start (w.scene? Node.startScene) }

theorem reset_eq {g : Game} {w : World} (h : World.load g.document.worldRoot = .ok w) :
    g.reset = ⟨g.fresh w, if g.traced then [.traced .loaded w.summary,
      .traced .reset ("reset entry " ++ Node.startScene)] else [], none⟩ := by
  rw [reset, h]
  cases ht : g.traced <;> simp [trace, Outcome.next, fresh, ht]

theorem reset_error {g : Game} {flaw : Flaw} (h : World.load g.document.worldRoot = .error flaw) :
    g.reset = .failed g (.document flaw) := by
  rw [reset, h]

theorem reset_game {g : Game} {w : World} (h : World.load g.document.worldRoot = .ok w) :
    g.reset.game = g.fresh w := by
  rw [reset_eq h]

theorem ofDocument_ok {document : Node} {catalogue : Catalogue} {traced : Bool} {o : Outcome}
    (h : ofDocument document catalogue traced = .ok o) : ∃ w,
      World.ofDocument document = .ok w ∧
      o.game = ⟨document, w, Session.start (w.scene? Node.startScene), catalogue, traced⟩ := by
  cases hd : World.ofDocument document with
  | error e => simp [ofDocument, hd, bind, Except.bind] at h
  | ok w =>
    refine ⟨w, rfl, ?_⟩
    simp only [ofDocument, hd, bind, Except.bind, pure, Except.pure, Except.ok.injEq] at h
    rw [← h, trace_next]
    exact reset_game (World.ofDocument_ok.mp hd).2

theorem opens_with {document : Node} {catalogue : Catalogue} {traced : Bool} {P : Outcome → Bool}
    (h : (ofDocument document catalogue traced).toOption.any P = true) :
    ∃ o, ofDocument document catalogue traced = .ok o ∧ P o = true :=
  ok_of_any h

theorem opens_of_loaded {document : Node} {w : World} (h : World.ofDocument document = .ok w)
    (catalogue : Catalogue) (traced : Bool) :
    ∃ o, ofDocument document catalogue traced = .ok o := by
  simp [ofDocument, h, bind, Except.bind, pure, Except.pure]

end Game

end Fabula

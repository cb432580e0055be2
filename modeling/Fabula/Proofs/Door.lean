import Mathlib.Data.List.Induction
import Fabula.Proofs.Integrity

/-!
Doors: which exits are open, and who opened them. An exit is named by its area and its position
among the exits there, neither of which changes in play.
-/

set_option autoImplicit false

namespace Fabula

def Exit.opened (e : Exit) : Exit := { e with isOpen := true }

def Exit.shut (e : Exit) : Exit := { e with isOpen := false }

namespace World

def exit? (w : World) (id : String) (i : Nat) : Option Exit := (w.area? id).bind (·.exits[i]?)

theorem area?_changeArea (w : World) (id : String) (f : Area → Area) (x : String) :
    (w.changeArea id f).area? x = if id = x then (w.area? x).map f else w.area? x :=
  Table.get?_modify id x f w.areas

theorem exit?_changeArea {f : Area → Area} (hf : ∀ a, (f a).exits = a.exits) (w : World)
    (id : String) : (w.changeArea id f).exit? = w.exit? := by
  funext x j
  rw [exit?, exit?, area?_changeArea]
  by_cases hx : id = x
  · rw [if_pos hx]
    cases w.area? x with
    | none => rfl
    | some a => simp [hf]
  · rw [if_neg hx]

theorem exit?_changeExits {f : List Exit → List Exit} {change : Nat → Exit → Exit}
    (hf : ∀ l j, (f l)[j]? = l[j]?.map (change j)) (w : World) (id x : String) (j : Nat) :
    (w.changeArea id fun a => { a with exits := f a.exits }).exit? x j =
      (w.exit? x j).map fun c => if x = id then change j c else c := by
  rw [exit?, exit?, area?_changeArea]
  by_cases hx : id = x
  · subst hx
    cases w.area? id with
    | none => simp
    | some a => simp [hf]
  · simp [hx, Ne.symm hx]

theorem exit?_unlock {w : World} {id : String} {i : Nat} {e : Exit} (h : w.exit? id i = some e)
    (x : String) (j : Nat) : (w.unlock id i).exit? x j = (w.exit? x j).map fun c =>
      if (x = id ∧ j = i) ∨ (x = e.target ∧ c.target = id ∧ c.kind = e.kind) then c.opened
      else c := by
  have hat : ∀ (l : List Exit) (j : Nat), (l.modify i Exit.opened)[j]? =
      l[j]?.map fun c => if j = i then c.opened else c := by
    intro l j
    rw [List.getElem?_modify]
    by_cases hj : i = j
    · simp [hj]
    · simp [hj, Ne.symm hj]
  have hback : ∀ (l : List Exit) (j : Nat),
      (l.map fun c => if c.target = id ∧ c.kind = e.kind then c.opened else c)[j]? =
        l[j]?.map fun c => if c.target = id ∧ c.kind = e.kind then c.opened else c :=
    fun l j => List.getElem?_map
  rw [unlock, show (w.area? id).bind (·.exits[i]?) = some e from h]
  refine (exit?_changeExits hback _ e.target x j).trans ?_
  refine (congrArg (Option.map _) (exit?_changeExits hat w id x j)).trans ?_
  rw [Option.map_map]
  congr 1
  funext c
  rw [Function.comp_apply]
  by_cases hn : x = id ∧ j = i
  · by_cases hb : x = e.target ∧ c.target = id ∧ c.kind = e.kind <;> simp [hn, Exit.opened]
  · have hsame : (if x = id then if j = i then c.opened else c else c) = c := by
      by_cases hx : x = id <;> simp_all
    simp only [hsame, hn, false_or]
    by_cases hx : x = e.target <;> simp [hx]

end World

namespace World

def Closed (w : World) : Prop :=
  ∀ x j c, w.exit? x j = some c → c.isOpen = (c.kind == Node.passage)

theorem load_closed {root : Node} {w : World} (h : load root = .ok w) : w.Closed := by
  have hall := load_areas_all (P := fun a => ∀ e ∈ a.exits, e.isOpen = (e.kind == Node.passage))
    (fun n e he => by simp [Node.bareArea] at he) (fun n a ha e he => ?_) h
  · intro x j c hc
    obtain ⟨a, ha, hj⟩ := Option.bind_eq_some_iff.mp hc
    exact hall _ (Table.mem_of_get? ha) c (List.mem_of_getElem? hj)
  · rw [Node.exits_of_area ha] at he
    obtain ⟨m, -, rfl⟩ := List.mem_map.mp he
    rfl

def ways (w : World) (a b kind : String) : List Exit :=
  ((w.area? a).map fun area => area.exits.filter fun e => e.target = b ∧ e.kind = kind).getD []

theorem mem_ways {w : World} {a b kind : String} {e : Exit} :
    e ∈ w.ways a b kind ↔ ∃ i, w.exit? a i = some e ∧ e.target = b ∧ e.kind = kind := by
  unfold ways exit?
  cases w.area? a with
  | none => simp
  | some area =>
    change e ∈ area.exits.filter _ ↔ ∃ i, area.exits[i]? = some e ∧ _
    rw [List.mem_filter, List.mem_iff_getElem?, exists_and_right, decide_eq_true_iff]

/-- If one of the exits of a kind between two areas is open, then so are all that lead back, or all
that lead the same way together with one that leads back. -/
def TwoSided (w : World) : Prop :=
  ∀ a b kind, kind ≠ Node.passage → (∃ e ∈ w.ways a b kind, e.isOpen = true) →
    (∀ e ∈ w.ways b a kind, e.isOpen = true) ∨
    (∀ e ∈ w.ways a b kind, e.isOpen = true) ∧ ∃ e ∈ w.ways b a kind, e.isOpen = true

theorem Closed.twoSided {w : World} (hw : w.Closed) : w.TwoSided := by
  rintro a b kind hkind ⟨e, he, hopen⟩
  obtain ⟨i, hi, -, rfl⟩ := mem_ways.mp he
  have h := hw a i e hi
  simp [hopen, hkind] at h

theorem mem_ways_congr {w v : World} {a b kind : String}
    (h : ∀ j c, c.target = b → c.kind = kind → (v.exit? a j = some c ↔ w.exit? a j = some c))
    (e : Exit) : e ∈ v.ways a b kind ↔ e ∈ w.ways a b kind := by
  rw [mem_ways, mem_ways]
  constructor <;> rintro ⟨i, hi, htarget, hkind⟩
  · exact ⟨i, (h i e htarget hkind).mp hi, htarget, hkind⟩
  · exact ⟨i, (h i e htarget hkind).mpr hi, htarget, hkind⟩

theorem TwoSided.of_ways {w v : World} {a b kind : String} (hw : w.TwoSided)
    (hthere : ∀ e, e ∈ v.ways a b kind ↔ e ∈ w.ways a b kind)
    (hback : ∀ e, e ∈ v.ways b a kind ↔ e ∈ w.ways b a kind) (hkind : kind ≠ Node.passage)
    (hopen : ∃ e ∈ v.ways a b kind, e.isOpen = true) :
    (∀ e ∈ v.ways b a kind, e.isOpen = true) ∨
    (∀ e ∈ v.ways a b kind, e.isOpen = true) ∧ ∃ e ∈ v.ways b a kind, e.isOpen = true := by
  simp only [hthere, hback] at hopen ⊢
  exact hw a b kind hkind hopen

theorem TwoSided.of_exits {w v : World} (hw : w.TwoSided) (h : v.exit? = w.exit?) :
    v.TwoSided := by
  intro a b kind
  have hways : ∀ a b e, e ∈ v.ways a b kind ↔ e ∈ w.ways a b kind :=
    fun a b => mem_ways_congr fun j c _ _ => by rw [h]
  exact hw.of_ways (hways a b) (hways b a)

theorem mem_ways_unlock {w : World} {id : String} {i : Nat} {e : Exit}
    (h : w.exit? id i = some e) {a b kind : String}
    (hthere : ¬(a = id ∧ b = e.target ∧ kind = e.kind))
    (hback : ¬(a = e.target ∧ b = id ∧ kind = e.kind)) (c : Exit) :
    c ∈ (w.unlock id i).ways a b kind ↔ c ∈ w.ways a b kind := by
  have hapart : ∀ j c, w.exit? a j = some c → c.target = b → c.kind = kind →
      ¬((a = id ∧ j = i) ∨ (a = e.target ∧ c.target = id ∧ c.kind = e.kind)) := by
    rintro j c hc rfl rfl (⟨rfl, rfl⟩ | hother)
    · cases hc.symm.trans h
      exact hthere ⟨rfl, rfl, rfl⟩
    · exact hback hother
  refine mem_ways_congr (fun j c htarget hkind => ?_) c
  rw [exit?_unlock h]
  constructor
  · intro hc
    obtain ⟨c₀, hc₀, rfl⟩ := Option.map_eq_some_iff.mp hc
    split at htarget
    · next hcond =>
      simp only [hcond, if_true] at hkind
      exact absurd hcond (hapart j c₀ hc₀ htarget hkind)
    · next hcond => rw [if_neg hcond, hc₀]
  · intro hc
    rw [hc, Option.map_some, if_neg (hapart j c hc htarget hkind)]

/-- After an exit is unlocked, those of its kind that lead back are open. -/
theorem open_of_mem_ways_unlock {w : World} {id : String} {i : Nat} {e : Exit}
    (h : w.exit? id i = some e) {c : Exit} (hc : c ∈ (w.unlock id i).ways e.target id e.kind) :
    c.isOpen = true := by
  obtain ⟨j, hj, htarget, hkind⟩ := mem_ways.mp hc
  rw [exit?_unlock h] at hj
  obtain ⟨c₀, -, rfl⟩ := Option.map_eq_some_iff.mp hj
  split at htarget
  · next hcond => rw [if_pos hcond]; rfl
  · next hcond =>
    rw [if_neg hcond] at hkind
    exact absurd (.inr ⟨rfl, htarget, hkind⟩) hcond

theorem opened_mem_ways_unlock {w : World} {id : String} {i : Nat} {e : Exit}
    (h : w.exit? id i = some e) : e.opened ∈ (w.unlock id i).ways id e.target e.kind := by
  refine mem_ways.mpr ⟨i, ?_, rfl, rfl⟩
  rw [exit?_unlock h, h]
  simp

theorem TwoSided.unlock {w : World} (hw : w.TwoSided) {id : String} {i : Nat} {e : Exit}
    (h : w.exit? id i = some e) : (w.unlock id i).TwoSided := by
  intro a b kind hkind hopen
  by_cases hthere : a = id ∧ b = e.target ∧ kind = e.kind
  · -- The way that was opened: all that lead back are open now.
    obtain ⟨rfl, rfl, rfl⟩ := hthere
    exact .inl fun c hc => open_of_mem_ways_unlock h hc
  · by_cases hback : a = e.target ∧ b = id ∧ kind = e.kind
    · -- The way back: all of it is open now, and so is the exit that was unlocked.
      obtain ⟨rfl, rfl, rfl⟩ := hback
      exact .inr ⟨fun c hc => open_of_mem_ways_unlock h hc, e.opened, opened_mem_ways_unlock h, rfl⟩
    · exact hw.of_ways (mem_ways_unlock h hthere hback)
        (mem_ways_unlock h (fun hc => hback ⟨hc.2.1, hc.1, hc.2.2⟩)
          fun hc => hthere ⟨hc.2.1, hc.1, hc.2.2⟩) hkind hopen

end World

namespace Game

/-- With a line the player opens an exit of the area around: the first one in the direction asked
for, shut so far, and the player has the key if one is needed. -/
structure Opens (g : Game) (l : Line) (id : String) (i : Nat) (e : Exit) : Prop where
  verb : l.verb = "open"
  asked : l.args ≠ []
  here : g.session.area = some id
  first : (g.world.area? id).bind (·.exitTo? l.argument) = some i
  exit : g.world.exit? id i = some e
  shut : e.isOpen = false
  key : ∀ key, e.key = some key → g.session.bag.has key = true

theorem Opens.unique {g : Game} {l : Line} {id id' : String} {i i' : Nat} {e e' : Exit}
    (h : g.Opens l id i e) (h' : g.Opens l id' i' e') : id = id' ∧ i = i' ∧ e = e' := by
  have hid : id = id' := Option.some.inj (h.here.symm.trans h'.here)
  subst hid
  have hi : i = i' := Option.some.inj (h.first.symm.trans h'.first)
  subst hi
  exact ⟨rfl, rfl, Option.some.inj (h.exit.symm.trans h'.exit)⟩

theorem lacksKey_eq_none {g : Game} {e : Exit} :
    g.lacksKey e = none ↔ ∀ key, e.key = some key → g.session.bag.has key = true := by
  unfold lacksKey
  cases e.key <;> simp

theorem Opens.deeds {g : Game} {l : Line} {id : String} {i : Nat} {e : Exit}
    (h : g.Opens l id i e) : ∃ area : Area, l.deeds? g = some [.unlock i,
      .note (.line .opened ("opened " ++ area.id ++ " [" ++ e.direction ++ "] -> " ++ e.target)),
      .fill "opened" [("type", .text e.kind), ("direction", .text e.direction)]] := by
  obtain ⟨area, harea, hi⟩ := Option.bind_eq_some_iff.mp h.first
  have he : area.exits[i]? = some e := by simpa [World.exit?, harea] using h.exit
  have hunlock : g.unlock l.args = [.unlock i,
      .note (.line .opened ("opened " ++ area.id ++ " [" ++ e.direction ++ "] -> " ++ e.target)),
      .fill "opened" [("type", .text e.kind), ("direction", .text e.direction)]] := by
    rw [Line.argument] at hi
    simp [unlock, area?, h.here, harea, hi, he, h.shut, lacksKey_eq_none.mpr h.key]
  exact ⟨area, by simp [Line.deeds?, h.verb, h.asked, Verb.ofWord?, Verb.deeds, hunlock]⟩

theorem Opens.execute {g : Game} {text : String} {id : String} {i : Nat} {e : Exit}
    (h : g.Opens (Line.ofText text) id i e) :
    (g.execute text).outcome.game = { g with world := g.world.unlock id i } := by
  obtain ⟨area, hd⟩ := h.deeds
  have hverb : ¬(Line.ofText text).verb = "" := by simp [h.verb]
  simp only [Game.execute, hverb, hd, if_false, trace_next]
  rw [performAll_then_quiet _ (by simp [Deed.IsQuiet]), Deed.perform, h.here]
  rfl

theorem exit?_changeHoldings (g : Game) (place : Place) (f : Holdings → Holdings) :
    (g.changeHoldings place f).world.exit? = g.world.exit? := by
  have hleft := g.changeHoldings_rearranged place f
  generalize g.changeHoldings place f = after at *
  cases hleft with
  | bag => rfl
  | nowhere => rfl
  | ground =>
    rw [World.exit?_changeArea]
    exact fun a => rfl
  | fixture =>
    rw [World.exit?_changeArea]
    exact fun a => rfl

theorem exit?_carry (g : Game) (item : String) (source target : Place) :
    (g.carry item source target).world.exit? = g.world.exit? := by
  rw [carry, exit?_changeHoldings, exit?_changeHoldings]

theorem execute_unasked {g : Game} {text : String} {v : Verb}
    (hv : Verb.ofWord? (Line.ofText text).verb = some v) (hneeds : v.needsArgument = true)
    (hargs : (Line.ofText text).args = []) : (g.execute text).outcome.game = g := by
  have hd : (Line.ofText text).deeds? g = none := by simp [Line.deeds?, hv, hneeds, hargs]
  unfold execute
  by_cases hblank : (Line.ofText text).verb = ""
  · simp [hblank]
  · simp only [hblank, if_false, hd, trace_next]
    exact Deed.perform_quiet rfl g

theorem execute_world {g : Game} {text : String} (hr : g.startsOver text = false)
    (hopens : ∀ id i e, ¬g.Opens (Line.ofText text) id i e) :
    (g.execute text).outcome.game.world = g.world ∨
      ∃ item source target, (g.execute text).outcome.game = g.carry item source target := by
  by_cases hargs : (Line.ofText text).verb = "open" ∧ (Line.ofText text).args = []
  · left
    rw [execute_unasked (v := .unlock) (by simp [hargs.1, Verb.ofWord?]) rfl hargs.2]
  · have he := g.execute_effect text
    generalize (g.execute text).outcome.game = after at he
    cases he with
    | restart hl hm => simp [startsOver, hl, hm] at hr
    | drop => exact .inr ⟨_, _, _, rfl⟩
    | take => exact .inr ⟨_, _, _, rfl⟩
    | @unlock id area i e hl hid ha hi he ho hk =>
      refine absurd ?_ (hopens id i e)
      exact {
        verb := hl
        asked := fun hnone => hargs ⟨hl, hnone⟩
        here := hid
        first := by rw [ha]; exact hi
        exit := by rw [World.exit?, ha]; exact he
        shut := ho
        key := lacksKey_eq_none.mp hk }
    | _ => exact .inl rfl

/-- A line opens an exit and those that lead back, or it leaves all exits as they are. -/
theorem execute_exits {g : Game} {text : String} (hr : g.startsOver text = false) :
    (∃ id i e, g.Opens (Line.ofText text) id i e ∧
      (g.execute text).outcome.game.world.exit? = (g.world.unlock id i).exit?) ∨
    ((∀ id i e, ¬g.Opens (Line.ofText text) id i e) ∧
      (g.execute text).outcome.game.world.exit? = g.world.exit?) := by
  by_cases hopens : ∃ id i e, g.Opens (Line.ofText text) id i e
  · obtain ⟨id, i, e, h⟩ := hopens
    exact .inl ⟨id, i, e, h, by rw [h.execute]⟩
  · simp only [not_exists] at hopens
    refine .inr ⟨hopens, ?_⟩
    rcases execute_world hr hopens with hworld | ⟨item, source, target, hcarry⟩
    · rw [hworld]
    · rw [hcarry, exit?_carry]

/-- A move by which an exit comes open: the player opens it, or from its other side an exit of the
same kind that leads back. -/
def Frees (g : Game) (m : Move) (x : String) (j : Nat) (c : Exit) : Prop :=
  ∃ l, g.heard? m = some l ∧
    (g.Opens l x j c ∨ ∃ i e, g.Opens l c.target i e ∧ e.target = x ∧ e.kind = c.kind)

theorem Opens.frees_iff {g : Game} {m : Move} {l : Line} {id : String} {i : Nat} {e : Exit}
    (h : g.Opens l id i e) (hl : g.heard? m = some l) {x : String} {j : Nat} {c : Exit}
    (hc : g.world.exit? x j = some c) : g.Frees m x j c ↔
      (x = id ∧ j = i) ∨ (x = e.target ∧ c.target = id ∧ c.kind = e.kind) := by
  constructor
  · rintro ⟨l', hl', hown | ⟨i', e', hother, htarget, hkind⟩⟩ <;> cases hl.symm.trans hl'
    · obtain ⟨hx, hj, -⟩ := hown.unique h
      exact .inl ⟨hx, hj⟩
    · obtain ⟨hx, -, rfl⟩ := hother.unique h
      exact .inr ⟨htarget.symm, hx, hkind.symm⟩
  · rintro (⟨rfl, rfl⟩ | ⟨hx, htarget, hkind⟩)
    · have hce : c = e := Option.some.inj (hc.symm.trans h.exit)
      exact ⟨l, hl, .inl (hce ▸ h)⟩
    · exact ⟨l, hl, .inr ⟨i, e, htarget ▸ h, hx.symm, hkind.symm⟩⟩

theorem not_frees {g : Game} {m : Move}
    (h : ∀ l, g.heard? m = some l → ∀ id i e, ¬g.Opens l id i e) (x : String) (j : Nat)
    (c : Exit) : ¬g.Frees m x j c := by
  rintro ⟨l, hl, hopens | ⟨i, e, hopens, -⟩⟩ <;> exact h l hl _ _ _ hopens

theorem move_exits {g : Game} {m : Move} (hr : g.restarts m = false) :
    (∃ l id i e, g.heard? m = some l ∧ g.Opens l id i e ∧
      (g.move m).world.exit? = (g.world.unlock id i).exit?) ∨
    ((∀ l, g.heard? m = some l → ∀ id i e, ¬g.Opens l id i e) ∧
      (g.move m).world.exit? = g.world.exit?) := by
  cases hheard : g.heard? m with
  | none => exact .inr ⟨by simp, by rw [move_world hheard hr]⟩
  | some l =>
    obtain ⟨text, rfl, hmove, hover⟩ := move_heard hheard
    rcases execute_exits (hover ▸ hr) with ⟨id, i, e, hopens, hexits⟩ | ⟨hnone, hexits⟩
    · exact .inl ⟨_, id, i, e, rfl, hopens, hmove ▸ hexits⟩
    · refine .inr ⟨fun l hl => ?_, hmove ▸ hexits⟩
      cases hl
      exact hnone

open Classical in
/-- A move that is no new start opens the exits that the player frees, and changes no others. -/
theorem exit?_move {g : Game} {m : Move} (hr : g.restarts m = false) (x : String) (j : Nat) :
    (g.move m).world.exit? x j =
      (g.world.exit? x j).map fun c => if g.Frees m x j c then c.opened else c := by
  rcases move_exits hr with ⟨l, id, i, e, hl, hopens, hexits⟩ | ⟨hnone, hexits⟩
  · rw [hexits, World.exit?_unlock hopens.exit]
    cases hc : g.world.exit? x j with
    | none => rfl
    | some c => simp only [Option.map_some, hopens.frees_iff hl hc]
  · simp only [hexits, not_frees hnone, if_false, Option.map_id']

theorem after_append (g : Game) (moves later : List Move) :
    g.after (moves ++ later) = (g.after moves).after later := List.foldl_append

theorem unbroken_append (g : Game) (moves later : List Move) :
    g.unbroken (moves ++ later) = (g.unbroken moves && (g.after moves).unbroken later) := by
  induction moves generalizing g with
  | nil => rfl
  | cons m moves ih =>
    rw [List.cons_append, unbroken, unbroken, ih, Bool.and_assoc]
    rfl

theorem Steady.closed_again {g : Game} (hg : g.Steady) {m : Move} (hr : g.restarts m = true) :
    (g.move m).world.Closed := by
  obtain ⟨w, hload, -⟩ := hg.again
  rw [restarts_move hr, reset_game hload]
  exact World.load_closed hload

theorem ofDocument_closed {document : Node} {catalogue : Catalogue} {traced : Bool} {o : Outcome}
    (h : ofDocument document catalogue traced = .ok o) : o.game.world.Closed := by
  obtain ⟨w, hw, hgame⟩ := ofDocument_ok h
  rw [hgame]
  exact World.load_closed (World.ofDocument_ok.mp hw).2

/-- Some move since the last new start has freed an exit. -/
def Freed (g : Game) (moves : List Move) (x : String) (j : Nat) (c : Exit) : Prop :=
  ∃ before m later, moves = before ++ m :: later ∧
    (g.after before).unbroken (m :: later) = true ∧ (g.after before).Frees m x j c

theorem Freed.snoc {g : Game} {moves : List Move} {x : String} {j : Nat} {c : Exit}
    (h : g.Freed moves x j c) {m : Move} (hr : (g.after moves).restarts m = false) :
    g.Freed (moves ++ [m]) x j c := by
  obtain ⟨before, first, later, rfl, hunbroken, hfrees⟩ := h
  refine ⟨before, first, later ++ [m], by simp, ?_, hfrees⟩
  rw [after_append] at hr
  rw [← List.cons_append, unbroken_append, hunbroken]
  simp [unbroken, hr]

/-- An exit that has come open was freed. -/
theorem Steady.freed {g : Game} (hg : g.Steady) (hclosed : g.world.Closed) (moves : List Move)
    {x : String} {j : Nat} {c : Exit} (hc : (g.after moves).world.exit? x j = some c)
    (hopen : c.isOpen = true) (hkind : c.kind ≠ Node.passage) : g.Freed moves x j c.shut := by
  induction moves using List.reverseRecOn generalizing c with
  | nil =>
    have h := hclosed x j c hc
    simp [hopen, hkind] at h
  | append_singleton moves m ih =>
    rw [after_append] at hc
    cases hr : (g.after moves).restarts m with
    | true =>
      have h := (after_keeps (fun _ m hg => hg.move m) hg moves).closed_again hr x j c hc
      simp [hopen, hkind] at h
    | false =>
      change ((g.after moves).move m).world.exit? x j = some c at hc
      rw [exit?_move hr] at hc
      obtain ⟨c₀, hc₀, rfl⟩ := Option.map_eq_some_iff.mp hc
      by_cases hfrees : (g.after moves).Frees m x j c₀
      · rw [if_pos hfrees] at hkind ⊢
        cases hwas : c₀.isOpen with
        | true => exact (ih hc₀ hwas hkind).snoc hr
        | false =>
          have hshut : c₀.opened.shut = c₀ := by simp [Exit.opened, Exit.shut, ← hwas]
          rw [hshut]
          exact ⟨moves, m, [], rfl, by simp [unbroken, hr], hfrees⟩
      · rw [if_neg hfrees] at hopen hkind ⊢
        exact (ih hc₀ hopen hkind).snoc hr

open Classical in
/-- An exit that is open in play, and is no passage, was opened by the player since the last new
start, from its own side or from the other one. Nothing else opens an exit, and only a new start
shuts one. -/
theorem open_exit_was_freed {document : Node} {catalogue : Catalogue} {traced : Bool} {o : Outcome}
    (h : ofDocument document catalogue traced = .ok o) (moves : List Move) :
    (∀ x j c, (o.game.after moves).world.exit? x j = some c → c.isOpen = true →
      c.kind ≠ Node.passage → o.game.Freed moves x j c.shut) ∧
    ∀ m, (o.game.after moves).restarts m = false → ∀ x j,
      ((o.game.after moves).move m).world.exit? x j = ((o.game.after moves).world.exit? x j).map
        fun c => if (o.game.after moves).Frees m x j c then c.opened else c :=
  ⟨fun _ _ _ => (ofDocument_steady h).freed (ofDocument_closed h) moves,
    fun _ hr x j => exit?_move hr x j⟩

def descent : List Move :=
  [.execute "go north", .execute "take key from rack", .execute "open down"]

theorem open_exit_was_freed_sample : ∃ o c,
    ofDocument Sample.document Catalogue.english false = .ok o ∧
    (o.game.after (arrival ++ descent)).world.exit? "cellar" 0 = some c ∧ c.isOpen = true ∧
    c.kind ≠ Node.passage ∧ o.game.Freed (arrival ++ descent) "cellar" 0 c.shut := by
  have hrun : (ofDocument Sample.document Catalogue.english false).toOption.any (fun o =>
      ((o.game.after (arrival ++ descent)).world.exit? "cellar" 0).any fun c =>
        c.isOpen && c.kind != Node.passage) = true := by decide +kernel
  cases h : ofDocument Sample.document Catalogue.english false with
  | error e => simp [h, Except.toOption] at hrun
  | ok o =>
    cases hc : (o.game.after (arrival ++ descent)).world.exit? "cellar" 0 with
    | none => simp [h, hc, Except.toOption] at hrun
    | some c =>
      simp only [h, hc, Except.toOption, Option.any_some, Bool.and_eq_true, bne_iff_ne] at hrun
      exact ⟨o, c, rfl, hc, hrun.1, hrun.2,
        (open_exit_was_freed h _).1 _ _ c hc hrun.1 hrun.2⟩

theorem Steady.move_twoSided {g : Game} (hg : g.Steady) (hw : g.world.TwoSided) (m : Move) :
    (g.move m).world.TwoSided := by
  cases hr : g.restarts m with
  | true => exact (hg.closed_again hr).twoSided
  | false =>
    rcases move_exits hr with ⟨l, id, i, e, -, hopens, hexits⟩ | ⟨-, hexits⟩
    · exact (hw.unlock hopens.exit).of_exits hexits
    · exact hw.of_exits hexits

/-- In play no door between two areas is open on one side only. Whoever goes through an open exit
finds an open one of its kind that leads back, if any does. -/
theorem doors_two_sided {document : Node} {catalogue : Catalogue} {traced : Bool} {o : Outcome}
    (h : ofDocument document catalogue traced = .ok o) (moves : List Move) :
    (o.game.after moves).world.TwoSided ∧
    ∀ x j c, (o.game.after moves).world.exit? x j = some c → c.isOpen = true →
      c.kind ≠ Node.passage → (o.game.after moves).world.ways c.target x c.kind ≠ [] →
      ∃ back ∈ (o.game.after moves).world.ways c.target x c.kind, back.isOpen = true := by
  have hkeeps : (o.game.after moves).Steady ∧ (o.game.after moves).world.TwoSided :=
    after_keeps (P := fun g => g.Steady ∧ g.world.TwoSided)
      (fun _ m hg => ⟨hg.1.move m, hg.1.move_twoSided hg.2 m⟩)
      ⟨ofDocument_steady h, (ofDocument_closed h).twoSided⟩ moves
  refine ⟨hkeeps.2, fun x j c hc hopen hkind hways => ?_⟩
  have hthere : c ∈ (o.game.after moves).world.ways x c.target c.kind :=
    World.mem_ways.mpr ⟨j, hc, rfl, rfl⟩
  rcases hkeeps.2 x c.target c.kind hkind ⟨c, hthere, hopen⟩ with hall | ⟨-, hback⟩
  · obtain ⟨back, hmem⟩ := List.exists_mem_of_ne_nil _ hways
    exact ⟨back, hmem, hall back hmem⟩
  · exact hback

theorem doors_two_sided_sample : ∃ o c, ofDocument Sample.document Catalogue.english false = .ok o ∧
    (o.game.after (arrival ++ descent)).world.exit? "hall" 1 = some c ∧ c.isOpen = true ∧
    (o.game.after (arrival ++ descent)).world.TwoSided ∧
    ∃ back ∈ (o.game.after (arrival ++ descent)).world.ways c.target "hall" c.kind,
      back.isOpen = true := by
  have hrun : (ofDocument Sample.document Catalogue.english false).toOption.any (fun o =>
      ((o.game.after (arrival ++ descent)).world.exit? "hall" 1).any fun c =>
        c.isOpen && c.kind != Node.passage &&
          !((o.game.after (arrival ++ descent)).world.ways c.target "hall" c.kind).isEmpty) =
        true := by decide +kernel
  cases h : ofDocument Sample.document Catalogue.english false with
  | error e => simp [h, Except.toOption] at hrun
  | ok o =>
    cases hc : (o.game.after (arrival ++ descent)).world.exit? "hall" 1 with
    | none => simp [h, hc, Except.toOption] at hrun
    | some c =>
      simp only [h, hc, Except.toOption, Option.any_some, Bool.and_eq_true, bne_iff_ne,
        Bool.not_eq_true', List.isEmpty_eq_false_iff] at hrun
      have hdoors := doors_two_sided h (arrival ++ descent)
      exact ⟨o, c, rfl, hc, hrun.1.1, hdoors.1, hdoors.2 _ _ c hc hrun.1.1 hrun.1.2 hrun.2⟩

end Game

end Fabula

import Fabula.Proofs.Door
import Fabula.Proofs.Movement

/-!
The direction that a game remembers, read off the story of its moves: it is the one of the last exit
that the player went through, unless the game has started over since, or the player has asked to go
back.
-/

set_option autoImplicit false

namespace Fabula

namespace Game

def Walks (g : Game) (m : Move) (e : Exit) : Prop :=
  ∃ l, g.heard? m = some l ∧ g.Way l e ∧ e.isOpen = true

def turnsBack (g : Game) (m : Move) : Bool := (g.heard? m).any Line.turnsBack

structure Uneventful (g : Game) (m : Move) : Prop where
  restarts : g.restarts m = false
  turnsBack : g.turnsBack m = false
  walks : ∀ e, ¬g.Walks m e

def Calm : Game → List Move → Prop
  | _, [] => True
  | g, m :: moves => g.Uneventful m ∧ Calm (g.move m) moves

/-- The last exit that moves take the player through, if they do so without asking to go back, and
all moves after it are uneventful. -/
def LastWalk (g : Game) (moves : List Move) (e : Exit) : Prop :=
  ∃ before m later, moves = before ++ m :: later ∧ (g.after before).Walks m e ∧
    (g.after before).turnsBack m = false ∧ (g.after (before ++ [m])).Calm later

theorem calm_append (g : Game) (moves later : List Move) :
    g.Calm (moves ++ later) ↔ g.Calm moves ∧ (g.after moves).Calm later := by
  induction moves generalizing g with
  | nil => simp [Calm, after]
  | cons m moves ih =>
    rw [List.cons_append, Calm, Calm, ih, and_assoc]
    rfl

theorem lastWalk_nil (g : Game) (e : Exit) : ¬g.LastWalk [] e := by
  rintro ⟨before, m, later, h, -⟩
  simp at h

/-- The last walk of moves with one more: that one, or an earlier one if it is uneventful. -/
theorem lastWalk_append {g : Game} {moves : List Move} {m : Move} {e : Exit} :
    g.LastWalk (moves ++ [m]) e ↔
      ((g.after moves).Walks m e ∧ (g.after moves).turnsBack m = false) ∨
      (g.LastWalk moves e ∧ (g.after moves).Uneventful m) := by
  constructor
  · rintro ⟨before, first, later, hmoves, hwalks, hback, hcalm⟩
    rcases List.eq_nil_or_concat later with rfl | ⟨since, last, rfl⟩
    · obtain ⟨rfl, hm⟩ := List.append_inj' hmoves rfl
      obtain rfl := List.singleton_inj.mp hm
      exact .inl ⟨hwalks, hback⟩
    · rw [List.concat_eq_append, ← List.cons_append, ← List.append_assoc] at hmoves
      obtain ⟨rfl, hm⟩ := List.append_inj' hmoves rfl
      obtain rfl := List.singleton_inj.mp hm
      rw [List.concat_eq_append, calm_append, ← after_append, List.append_assoc] at hcalm
      exact .inr ⟨⟨before, first, since, rfl, hwalks, hback, hcalm.1⟩, hcalm.2.1⟩
  · rintro (⟨hwalks, hback⟩ | ⟨⟨before, first, since, rfl, hwalks, hback, hcalm⟩, huneventful⟩)
    · exact ⟨moves, m, [], rfl, hwalks, hback, trivial⟩
    · refine ⟨before, first, since ++ [m], by simp, hwalks, hback, ?_⟩
      rw [calm_append, ← after_append, List.append_assoc]
      exact ⟨hcalm, huneventful, trivial⟩

theorem Walks.unique {g : Game} {m : Move} {e e' : Exit} (h : g.Walks m e) (h' : g.Walks m e') :
    e = e' := by
  obtain ⟨l, hheard, hway, -⟩ := h
  obtain ⟨l', hheard', hway', -⟩ := h'
  obtain rfl := Option.some.inj (hheard.symm.trans hheard')
  exact hway.unique hway'

theorem gone_heading (g : Game) (l : Line) : (g.gone l).session.heading =
    if l.turnsBack then none
    else (g.passage? l).elim g.session.heading fun e => some e.direction := by
  rw [gone]
  split
  · rfl
  · cases g.passage? l <;> rfl

inductive Recalls (g : Game) (m : Move) (after : Session) : Prop where
  | forgotten : g.restarts m = true ∨ g.turnsBack m = true → after.heading = none →
      Recalls g m after
  | walked {e : Exit} : g.Walks m e → g.turnsBack m = false → after.heading = some e.direction →
      after.area = some e.target → Recalls g m after
  | kept : g.Uneventful m → after.heading = g.session.heading →
      (g.session.heading.isSome → after.area = g.session.area) → Recalls g m after

theorem turned_heading {g after : Game} {lines : Lines} (ht : g.Turned lines after)
    (h : g.heard? (.tick lines) = none) : after.session.heading = g.session.heading := by
  cases ht with
  | nothing => rfl
  | answer => rfl
  | queued _ hp => cases hp <;> rfl
  | scripted _ hp => cases hp <;> rfl
  | line hstate hlines =>
    subst hlines
    simp [heard?, hstate] at h

section

variable {document : Node} {w : World} {g : Game}

/-- A turn without a line of the player does not move a player who has a direction to go back
against. -/
theorem Spoken.unheard_recalls (hg : g.Spoken document w) (hs : g.session.Shaped) {lines : Lines}
    (h : g.heard? (.tick lines) = none) :
    g.Recalls (.tick lines) (g.move (.tick lines)).session := by
  have hrestarts : g.restarts (.tick lines) = false := by
    cases hr : g.restarts (.tick lines) with
    | false => rfl
    | true =>
      cases lines with
      | nil => cases hr
      | cons line rest =>
        cases line with
        | none => cases hr
        | some text =>
          simp only [restarts, Bool.and_eq_true, beq_iff_eq] at hr
          simp [heard?, hr.1] at h
  refine .kept ⟨hrestarts, by simp [turnsBack, h], ?_⟩
    (turned_heading (g.tick_turned lines) h) fun hheading => ?_
  · rintro e ⟨l, hl, -⟩
    simp [h] at hl
  · rcases hg.tick_moves lines with hstay | hmoves
    · exact hstay
    · generalize (g.move (.tick lines)).session.area = area at hmoves
      cases hmoves with
      | entered _ hdue => simp [hs.entering _ hdue] at hheading
      | restarted hl => simp [h] at hl
      | went hl => simp [h] at hl

theorem Spoken.heard_recalls (hg : g.Spoken document w) {m : Move} {l : Line}
    (h : g.heard? m = some l) : g.Recalls m (g.move m).session := by
  obtain ⟨text, rfl, hmove, hrestarts⟩ := move_heard h
  have hback : g.turnsBack m = (Line.ofText text).turnsBack := by simp [turnsBack, h]
  have harea := hg.heard_area text
  rw [hmove]
  cases hr : g.startsOver text with
  | true =>
    obtain ⟨again, hload, -⟩ := hg.tallied.steady.again
    refine .forgotten (.inl (hrestarts.trans hr)) ?_
    rw [startsOver_execute hr, reset_game hload]
    rfl
  | false =>
    have hrestart : (Line.ofText text).verb ≠ "restart" := by
      intro hverb
      have hover : g.startsOver text = true := by
        rw [startsOver, hverb, hg.english]
        rfl
      simp [hr] at hover
    rw [if_neg hrestart] at harea
    by_cases hgo : (Line.ofText text).verb = "go"
    · have hheading := g.gone_heading (Line.ofText text)
      rw [← execute_go hg.english hgo, ← hback] at hheading
      cases hturn : g.turnsBack m with
      | true => exact .forgotten (.inr hturn) (by simp [hheading, hturn])
      | false =>
        rw [hturn, if_neg Bool.false_ne_true] at hheading
        cases hp : g.passage? (Line.ofText text) with
        | some e =>
          rw [hp] at hheading harea
          exact .walked ⟨_, h, passage?_eq_some.mp hp⟩ hturn hheading harea
        | none =>
          rw [hp] at hheading harea
          refine .kept ⟨hrestarts.trans hr, hturn, ?_⟩ hheading fun _ => harea
          rintro e ⟨l, hl, hway⟩
          obtain rfl := Option.some.inj (h.symm.trans hl)
          simp [passage?_eq_some.mpr hway] at hp
    · obtain ⟨hstays, hkept⟩ := (g.execute_effect text).stays hgo hrestart
      refine .kept ⟨hrestarts.trans hr, by simp [hback, Line.turnsBack, hgo], ?_⟩ hkept
        fun _ => hstays
      rintro e ⟨l, hl, hway, -⟩
      obtain rfl := Option.some.inj (h.symm.trans hl)
      exact hgo hway.verb

theorem Spoken.recalls (hg : g.Spoken document w) (hs : g.session.Shaped) {m : Move}
    (hm : m.isPlayed = true) : g.Recalls m (g.move m).session := by
  cases m with
  | execute text => cases hm
  | reset =>
    obtain ⟨again, hload, -⟩ := hg.tallied.steady.again
    refine .forgotten (.inl rfl) ?_
    change g.reset.game.session.heading = none
    rw [reset_game hload]
    rfl
  | tick lines =>
    cases h : g.heard? (.tick lines) with
    | none => exact hg.unheard_recalls hs h
    | some l => exact hg.heard_recalls h

end

theorem Walks.unbroken {g : Game} {m : Move} {e : Exit} (h : g.Walks m e) :
    g.restarts m = false := by
  obtain ⟨l, hheard, hway, -⟩ := h
  obtain ⟨text, rfl, -, hrestarts⟩ := move_heard hheard
  rw [hrestarts, startsOver, hway.verb]
  rfl

/-- A line that turns back goes through an exit only after another walk: one that came after all
earlier lines that turned back. -/
theorem walk_between {g : Game} {before mid : List Move} {m : Move} {e : Exit}
    (hm : (g.after before).turnsBack m = true) (h : g.LastWalk (before ++ m :: mid) e) :
    ∃ earlier n later, mid = earlier ++ n :: later ∧
      (g.after (before ++ m :: earlier)).Walks n e ∧
      (g.after (before ++ m :: earlier)).turnsBack n = false := by
  obtain ⟨first, n, later, hmoves, hwalks, hback, hcalm⟩ := h
  rcases List.append_eq_append_iff.mp hmoves with ⟨between, rfl, hmid⟩ | ⟨between, rfl, hlater⟩
  · cases between with
    | nil =>
      obtain ⟨rfl, -⟩ := List.cons.inj hmid
      simp [hm] at hback
    | cons m' earlier =>
      obtain ⟨rfl, rfl⟩ := List.cons.inj hmid
      exact ⟨earlier, n, later, rfl, hwalks, hback⟩
  · cases between with
    | nil =>
      obtain ⟨rfl, -⟩ := List.cons.inj hlater
      rw [List.append_nil] at hm
      simp [hm] at hback
    | cons n' since =>
      rw [List.cons_append] at hlater
      obtain ⟨rfl, rfl⟩ := List.cons.inj hlater
      rw [calm_append, ← after_append, List.append_assoc, List.singleton_append] at hcalm
      exact absurd hm (by simp [hcalm.2.1.turnsBack])

theorem Way.remembered {g : Game} {l : Line} {e : Exit} (h : g.Way l e)
    (hback : l.turnsBack = true) : g.session.heading.isSome := by
  obtain ⟨-, -, area, direction, -, hasks, -⟩ := h
  cases hasks with
  | onward honward => simp [Line.turnsBack, honward] at hback
  | back _ hlast => simp [hlast]

theorem lastWalk_of_played {document : Node} {w : World} {g : Game}
    (hload : World.load document.worldRoot = .ok w) (hg : g.Spoken document w)
    (hc : g.Composed w) (hnone : g.session.heading = none) {moves : List Move}
    (hm : ∀ m ∈ moves, m.isPlayed = true) :
    (∀ d, (g.after moves).session.heading = some d ↔ ∃ e, g.LastWalk moves e ∧ e.direction = d) ∧
    ∀ e, g.LastWalk moves e → (g.after moves).session.area = some e.target := by
  induction moves using List.reverseRecOn with
  | nil => simp [after, hnone, lastWalk_nil]
  | append_singleton moves m ih =>
    rw [List.forall_mem_append, List.forall_mem_singleton] at hm
    obtain ⟨hheading, harea⟩ := ih hm.1
    have hrecalls := (hg.after hload moves).recalls (hc.after hm.1).poised.shaped hm.2
    have hafter : g.after (moves ++ [m]) = (g.after moves).move m := g.after_append moves [m]
    simp only [hafter, lastWalk_append]
    generalize ((g.after moves).move m).session = after at hrecalls
    cases hrecalls with
    | forgotten hevent hforgotten =>
      have hnever : ∀ e, ¬((g.after moves).Walks m e ∧ (g.after moves).turnsBack m = false ∨
          g.LastWalk moves e ∧ (g.after moves).Uneventful m) := by
        rintro e (⟨hwalks, hback⟩ | ⟨-, hcalm⟩)
        · rcases hevent with hr | hb
          · simp [hwalks.unbroken] at hr
          · simp [hback] at hb
        · rcases hevent with hr | hb
          · simp [hcalm.restarts] at hr
          · simp [hcalm.turnsBack] at hb
      simp [hforgotten, hnever]
    | @walked e hwalks hback hto hat =>
      have honly : ∀ e', ((g.after moves).Walks m e' ∧ (g.after moves).turnsBack m = false ∨
          g.LastWalk moves e' ∧ (g.after moves).Uneventful m) ↔ e' = e := by
        refine fun e' => ⟨?_, fun h => .inl ⟨h ▸ hwalks, hback⟩⟩
        rintro (⟨hwalks', -⟩ | ⟨-, hcalm⟩)
        · exact hwalks'.unique hwalks
        · exact absurd hwalks (hcalm.walks e)
      simp [honly, hto, hat]
    | kept hcalm hsame hstay =>
      have honly : ∀ e, ((g.after moves).Walks m e ∧ (g.after moves).turnsBack m = false ∨
          g.LastWalk moves e ∧ (g.after moves).Uneventful m) ↔ g.LastWalk moves e :=
        fun e => ⟨fun h => h.elim (fun h => absurd h.1 (hcalm.walks e)) And.left,
          fun h => .inr ⟨h, hcalm⟩⟩
      simp only [honly, hsame]
      refine ⟨hheading, fun e he => ?_⟩
      rw [hstay (by simp [(hheading _).mpr ⟨e, he, rfl⟩]), harea e he]

/-- The direction that is remembered is the one of the last exit that the player went through since
the game last started over and since a line last asked to go back; then the player is where that
exit leads. So between two lines that ask to go back, of which the second goes somewhere, the player
has gone somewhere by another line. -/
theorem heading_recalls {document : Node} {traced : Bool} {o : Outcome}
    (h : ofDocument document .english traced = .ok o) {moves : List Move}
    (hm : ∀ m ∈ moves, m.isPlayed = true) :
    (∀ direction, (o.game.after moves).session.heading = some direction ↔
      ∃ e, o.game.LastWalk moves e ∧ e.direction = direction) ∧
    (∀ e, o.game.LastWalk moves e → (o.game.after moves).session.area = some e.target) ∧
    ∀ before m mid m' rest e', moves = before ++ m :: mid ++ m' :: rest →
      (o.game.after before).turnsBack m = true →
      (o.game.after (before ++ m :: mid)).turnsBack m' = true →
      (o.game.after (before ++ m :: mid)).Walks m' e' →
      ∃ earlier n later e, mid = earlier ++ n :: later ∧
        (o.game.after (before ++ m :: earlier)).Walks n e ∧
        (o.game.after (before ++ m :: earlier)).turnsBack n = false := by
  obtain ⟨w, hw, hgame⟩ := ofDocument_ok h
  have hload := (World.ofDocument_ok.mp hw).2
  have hspoken := ofDocument_spoken h hw
  have hcomposed : o.game.Composed w :=
    ⟨by rw [hgame]; exact hload, hspoken.agenda, by rw [hgame]; exact .start _⟩
  have hnone : o.game.session.heading = none := by rw [hgame]; rfl
  obtain ⟨hheading, harea⟩ := lastWalk_of_played hload hspoken hcomposed hnone hm
  refine ⟨hheading, harea, ?_⟩
  rintro before m mid m' rest e' rfl hturn hturn' ⟨l, hheard, hway, -⟩
  have hback : l.turnsBack = true := by simpa [turnsBack, hheard] using hturn'
  obtain ⟨direction, hd⟩ := Option.isSome_iff_exists.mp (hway.remembered hback)
  have hplayed : ∀ n ∈ before ++ m :: mid, n.isPlayed = true :=
    fun n hn => hm n (List.mem_append_left _ hn)
  obtain ⟨e, hlast, -⟩ :=
    ((lastWalk_of_played hload hspoken hcomposed hnone hplayed).1 direction).mp hd
  obtain ⟨earlier, n, later, hmid, hwalks, hother⟩ := walk_between hturn hlast
  exact ⟨earlier, n, later, e, hmid, hwalks, hother⟩

def walkIn : List Move :=
  arrival ++ [.tick [some "go north"], .tick [some "go down"], .tick [some "look"]]

def back : Move := .tick [some "go back"]

/-- In the hall, north is what is remembered. To go back twice, the player has to go in again. -/
theorem heading_recalls_sample :
    ∃ o, ofDocument Sample.document .english false = .ok o ∧
    (∃ e, o.game.LastWalk walkIn e ∧ e.direction = "north" ∧
      (o.game.after walkIn).session.area = some e.target) ∧
    ∃ e, (o.game.after (walkIn ++ [back])).Walks (.tick [some "go north"]) e := by
  have hrun : (ofDocument Sample.document .english false).toOption.any (fun o =>
      (o.game.after walkIn).session.heading == some "north" &&
      (o.game.after walkIn).turnsBack back &&
      (o.game.after (walkIn ++ back :: [.tick [some "go north"]])).turnsBack back &&
      ((o.game.after (walkIn ++ back :: [.tick [some "go north"]])).heard? back).any fun l =>
        ((o.game.after (walkIn ++ back :: [.tick [some "go north"]])).passage? l).isSome) =
      true := by decide +kernel
  obtain ⟨o, ho, hrun⟩ := opens_with hrun
  simp only [Bool.and_eq_true, beq_iff_eq, Option.any_eq_true] at hrun
  obtain ⟨⟨⟨hnorth, hturn⟩, hagain⟩, l, hheard, hpassage⟩ := hrun
  obtain ⟨e', hpassage⟩ := Option.isSome_iff_exists.mp hpassage
  have hplayed : ∀ m ∈ walkIn, m.isPlayed = true := by decide
  obtain ⟨hheading, harea, -⟩ := heading_recalls ho hplayed
  obtain ⟨e, hlast, hdirection⟩ := (hheading "north").mp hnorth
  refine ⟨o, ho, ⟨e, hlast, hdirection, harea e hlast⟩, ?_⟩
  have hreplayed : ∀ m ∈ walkIn ++ back :: [.tick [some "go north"]] ++ [back],
      m.isPlayed = true := by decide
  obtain ⟨earlier, n, later, e, hmid, hwalks, -⟩ :=
    (heading_recalls ho hreplayed).2.2 walkIn back [.tick [some "go north"]] back [] e' rfl
      hturn hagain ⟨l, hheard, passage?_eq_some.mp hpassage⟩
  cases earlier with
  | nil =>
    obtain ⟨rfl, -⟩ := List.cons.inj hmid
    exact ⟨e, hwalks⟩
  | cons _ earlier => simp at hmid

end Game

end Fabula

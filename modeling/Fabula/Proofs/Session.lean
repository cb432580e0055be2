import Fabula.Proofs.Reach

/-!
Sessions: turns up to the last one, and what the player gets to see of them. How many there are is
bounded by the cues at hand and by the lines still to be read.
-/

set_option autoImplicit false

namespace Fabula

def Event.isSeen : Event → Bool
  | .shown _ | .asked _ => true
  | .traced .. => false

@[simp] theorem Event.isSeen_shown (text : String) : (Event.shown text).isSeen = true := rfl

@[simp] theorem Event.isSeen_asked (prompt : String) : (Event.asked prompt).isSeen = true := rfl

@[simp] theorem Event.isSeen_traced (topic : Topic) (line : String) :
    (Event.traced topic line).isSeen = false := rfl

def Outcome.seen (o : Outcome) : List Event := o.events.filter Event.isSeen

theorem Outcome.next_seen (o : Outcome) (step : Game → Outcome) :
    (o.next step).seen = o.seen ++ if o.fault.isSome then [] else (step o.game).seen := by
  unfold next
  cases o.fault <;> simp [seen]

@[simp] theorem Outcome.done_seen (g : Game) : (done g).seen = [] := rfl

@[simp] theorem Game.display_seen (g : Game) (text : String) :
    (g.display text).seen = [.shown text] := rfl

@[simp] theorem Game.trace_seen (g : Game) (topic : Topic) (line : String) :
    (g.trace topic line).seen = [] := by
  cases h : g.traced <;> simp [Game.trace, Outcome.seen, h]

theorem Turn.andThen_fault {t : Turn} (h : t.outcome.fault = none) (rest : Game → Lines → Turn) :
    (t.andThen rest).outcome.fault = (rest t.outcome.game t.unread).outcome.fault := by
  rw [andThen, h]

theorem Turn.andThen_seen {t : Turn} (h : t.outcome.fault = none) (rest : Game → Lines → Turn) :
    (t.andThen rest).outcome.seen =
      t.outcome.seen ++ (rest t.outcome.game t.unread).outcome.seen := by
  rw [andThen, h]
  exact List.filter_append ..

/-- What a move gives back: what the player gets to see, why it breaks off, whether the session goes
on or the line was understood, and the lines still to be read. -/
structure Reply where
  seen : List Event
  fault : Option Fault
  result : Bool
  unread : Lines

def Turn.reply (t : Turn) : Reply := ⟨t.outcome.seen, t.outcome.fault, t.alive, t.unread⟩

def Answer.reply (a : Answer) : Reply := ⟨a.outcome.seen, a.outcome.fault, a.understood, []⟩

def Game.reply (g : Game) : Move → Reply
  | .tick lines => (g.tick lines).reply
  | .execute text => (g.execute text).reply
  | .reset => ⟨g.reset.seen, g.reset.fault, true, []⟩

def Session.work (s : Session) : Nat := s.queue.length + s.remaining.length

namespace Game

def startLength (g : Game) : Nat :=
  match World.load g.document.worldRoot with
  | .ok w => ((w.scene? Node.startScene).map (·.cues.length)).getD 0
  | .error _ => 0

theorem turnBound_eq (g : Game) (lines : Lines) :
    g.turnBound lines = g.session.work + lines.length * (g.startLength + 2) + 2 := rfl

theorem SameStory.startLength {g h : Game} (hs : g.SameStory h) :
    h.startLength = g.startLength := by
  rw [Game.startLength, Game.startLength, hs.document]

theorem work_fresh {g : Game} {w : World} (h : World.load g.document.worldRoot = .ok w) :
    (g.fresh w).session.work = g.startLength := by
  rw [startLength, h]
  simp only [fresh, Session.work, Session.start, Session.remaining]
  cases w.scene? Node.startScene <;> simp

/-- A line adds one cue to the queue at most, if it does not bring the first scene back. -/
theorem Effect.work_le {g after : Game} {l : Line} (he : g.Effect l after) :
    after.session.work ≤ g.session.work + g.startLength + 1 := by
  have hleaves := he.leaves
  generalize after.session = left at hleaves
  cases hleaves with
  | restart =>
    cases hload : World.load g.document.worldRoot with
    | error flaw =>
      rw [reset_error hload, Outcome.failed_game]
      omega
    | ok w =>
      rw [reset_game hload, work_fresh hload]
      omega
  | @quit question =>
    have hpush : (g.session.push question).work = g.session.work + 1 := by
      simp [Session.work, Session.push, Session.remaining]
      omega
    rw [hpush]
    omega
  | moved => exact Nat.le_add_right _ (g.startLength + 1)

theorem played_work {g after : Game} {cue : Cue} (hp : Cue.Played g cue after) :
    after.session.work = g.session.work := by
  cases hp <;> rfl

theorem answer_work_le (cue : Cue) (g : Game) (line : String) :
    (answer cue g line).game.session.work ≤ g.session.work + 1 := by
  unfold answer
  cases cue.reply? line with
  | none => exact Nat.le_add_right _ 1
  | some follow =>
    simp only [Outcome.done, changeSession, Session.work, Session.push, List.length_append,
      List.length_singleton]
    change g.session.queue.length + 1 + g.session.remaining.length ≤ _
    omega

/-- A turn after which the session goes on lowers the number of turns that there can be. -/
theorem tick_lowers {g : Game} {lines : Lines} (halive : (g.tick lines).alive = true)
    (hfault : (g.tick lines).outcome.fault = none) :
    (g.tick lines).outcome.game.turnBound (g.tick lines).unread < g.turnBound lines := by
  have hsame : (g.tick lines).outcome.game.startLength = g.startLength :=
    (g.tick_turned lines).sameStory.startLength
  rw [turnBound_eq, turnBound_eq, hsame]
  have htakes := g.tick_takes lines
  generalize g.tick lines = t at *
  -- A line that is read outweighs all the cues that it can bring.
  have hline : ∀ rest : Lines, (rest.length + 1) * (g.startLength + 2) =
      rest.length * (g.startLength + 2) + (g.startLength + 2) := fun rest => Nat.succ_mul _ _
  cases htakes with
  | finished => cases halive
  | @answered cue hf hp =>
    have hreads := g.reading_reads lines (answer cue)
    generalize g.reading lines (answer cue) = t at *
    cases hreads with
    | ended => cases hfault
    | interrupted => cases hfault
    | @line text rest =>
      have hwork := answer_work_le cue g text
      simp only [List.length_cons, hline]
      omega
  | @queued cue queue hf hp hq =>
    have hwork := played_work (cue.play_played (g.changeSession fun s => { s with queue }))
    have hless : (g.changeSession fun s => { s with queue }).session.work + 1 = g.session.work := by
      simp only [changeSession, Session.work, hq, List.length_cons]
      change queue.length + g.session.remaining.length + 1 = _
      omega
    simp only [hwork]
    omega
  | @scripted cue cues hf hp hq hr =>
    have hwork := played_work
      (cue.play_played (g.changeSession fun s => { s with cursor := s.cursor + 1 }))
    have hless : (g.changeSession fun s => { s with cursor := s.cursor + 1 }).session.work + 1 =
        g.session.work := by
      simp only [changeSession, Session.work, Session.remaining_next hr, hr, List.length_cons]
      omega
    simp only [hwork]
    omega
  | commanded hstate =>
    have hreads := g.reading_reads lines fun g line => (g.execute line).outcome
    generalize g.reading lines (fun g line => (g.execute line).outcome) = t at *
    cases hreads with
    | ended => cases hfault
    | interrupted => cases hfault
    | @line text rest =>
      have hwork := (g.execute_effect text).work_le
      simp only [List.length_cons, hline]
      omega

/-- A session that ends after `k` turns, and all that is left of it. The last turn is the one that
finds it over, or that breaks off. -/
inductive Ends : Game → Lines → Nat → Turn → Prop where
  | last {g : Game} {lines : Lines} :
      (g.tick lines).alive = false ∨ (g.tick lines).outcome.fault.isSome = true →
      Ends g lines 1 (g.tick lines)
  | more {g : Game} {lines : Lines} {k : Nat} {t : Turn} : (g.tick lines).alive = true →
      (g.tick lines).outcome.fault = none →
      Ends (g.tick lines).outcome.game (g.tick lines).unread k t →
      Ends g lines (k + 1) ((g.tick lines).andThen fun _ _ => t)

theorem ends_within (g : Game) (lines : Lines) :
    ∃ k t, g.Ends lines k t ∧ k + 1 ≤ g.turnBound lines := by
  -- The bound is the measure: every turn but the last lowers it.
  induction hbound : g.turnBound lines using Nat.strongRecOn generalizing g lines with
  | ind bound ih =>
    have htwo := g.turnBound_eq lines
    cases halive : (g.tick lines).alive with
    | false => exact ⟨1, _, .last (.inl halive), by omega⟩
    | true =>
      cases hfault : (g.tick lines).outcome.fault with
      | some fault => exact ⟨1, _, .last (.inr (by simp [hfault])), by omega⟩
      | none =>
        have hless : (g.tick lines).outcome.game.turnBound (g.tick lines).unread < bound :=
          hbound ▸ tick_lowers halive hfault
        obtain ⟨k, t, hends, hk⟩ := ih _ hless _ _ rfl
        exact ⟨k + 1, _, .more halive hfault hends, by omega⟩

theorem Ends.runFor {g : Game} {lines : Lines} {k : Nat} {t : Turn} (h : g.Ends lines k t)
    {fuel : Nat} (hfuel : k ≤ fuel) : Game.runFor fuel g lines = t := by
  induction h generalizing fuel with
  | @last g lines hend =>
    obtain ⟨more, rfl⟩ : ∃ more, fuel = more + 1 := ⟨fuel - 1, by omega⟩
    rw [Game.runFor]
    cases halive : (g.tick lines).alive with
    | false => simp
    | true =>
      obtain ⟨fault, hfault⟩ : ∃ fault, (g.tick lines).outcome.fault = some fault := by
        simpa [halive, Option.isSome_iff_exists] using hend
      simp [Turn.andThen, hfault]
  | @more g lines k t halive hfault _ ih =>
    obtain ⟨more, rfl⟩ : ∃ more, fuel = more + 1 := ⟨fuel - 1, by omega⟩
    rw [Game.runFor]
    simp only [halive, if_true, Turn.andThen, hfault, ih (by omega : k ≤ more)]

theorem Ends.unique {g : Game} {lines : Lines} {k j : Nat} {t u : Turn} (h : g.Ends lines k t)
    (h' : g.Ends lines j u) : t = u :=
  (h.runFor (Nat.le_max_left k j)).symm.trans (h'.runFor (Nat.le_max_right k j))

end Game

def Turn.closed (t : Turn) : Turn :=
  match t.outcome.fault with
  | some .endOfInput | some .interrupted =>
    { t with outcome := { t.outcome with fault := none }.next (Deed.say "farewell").perform }
  | _ => t

namespace Game

theorem run_eq_closed (g : Game) (lines : Lines) :
    g.run lines = (runFor (g.turnBound lines) g lines).closed :=
  rfl

theorem Ends.run {g : Game} {lines : Lines} {k : Nat} {t : Turn} (h : g.Ends lines k t) :
    g.run lines = t.closed := by
  obtain ⟨j, u, hu, hj⟩ := g.ends_within lines
  rw [run_eq_closed, hu.runFor (by omega), h.unique hu]

theorem closed_andThen {t : Turn} (h : t.outcome.fault = none) (u : Turn) :
    (t.andThen fun _ _ => u).closed = t.andThen fun _ _ => u.closed := by
  obtain ⟨⟨g, events, fault⟩, unread, alive⟩ := u
  simp only [Turn.andThen, h, Turn.closed]
  cases fault with
  | none => rfl
  | some fault => cases fault <;> simp [Outcome.next]

theorem run_step {g : Game} {lines : Lines} (halive : (g.tick lines).alive = true)
    (hfault : (g.tick lines).outcome.fault = none) :
    g.run lines = (g.tick lines).andThen Game.run := by
  obtain ⟨k, t, hends, -⟩ := (g.tick lines).outcome.game.ends_within (g.tick lines).unread
  rw [(Ends.more halive hfault hends).run, closed_andThen hfault]
  simp only [Turn.andThen, hfault, hends.run]

end Game

end Fabula

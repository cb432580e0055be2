import Fabula.Proofs.Reach

/-!
The agenda of a game: the cues of its scene, those that are queued, and the pending one. A property
that documents give to their cues, and that answers inherit, holds of the whole agenda in all of
play.
-/

set_option autoImplicit false

namespace Fabula

def Session.agenda (s : Session) : List Cue :=
  (s.scene.map (·.cues)).getD [] ++ s.queue ++ s.pending.toList

/-- A property that answers inherit, and that the question whether to quit has. -/
structure Cue.Inherited (C : Cue → Prop) : Prop where
  answered : ∀ cue follow line, C cue → cue.reply? line = some follow → C follow
  quit : ∀ question yes no, C (.choose question [(yes, .act .finish), (no, .pass)])

def World.EachCue (w : World) (C : Cue → Prop) : Prop :=
  ∀ row ∈ w.scenes, ∀ cue ∈ row.2.cues, C cue

/-- An inherited property of all cues that are written. -/
structure Cue.Lasting (C : Cue → Prop) : Prop extends Cue.Inherited C where
  written : ∀ n cue, Node.cue? n = some cue → C cue

theorem Cue.Lasting.loaded {C : Cue → Prop} (hC : Lasting C) {root : Node} {w : World}
    (h : World.load root = .ok w) : w.EachCue C := by
  intro row hrow cue hcue
  obtain ⟨n, hn⟩ := World.load_cues h row hrow cue hcue
  exact hC.written n cue hn

/-- The one thing that play itself lets a cue do is to end the session. -/
theorem Cue.finishes_lasting : Cue.Lasting fun cue => ∀ action ∈ cue.actions, action = .finish where
  written n cue h := by simp [Node.actions_of_written n cue h]
  answered cue follow line hcue h action ha := hcue action (Cue.actions_of_reply? h ha)
  quit question yes no := by simp [Cue.actions, Cue.optionActions]

namespace Session

variable {C : Cue → Prop}

theorem agenda_iff {s : Session} : (∀ cue ∈ s.agenda, C cue) ↔
    (∀ scene, s.scene = some scene → ∀ cue ∈ scene.cues, C cue) ∧ (∀ cue ∈ s.queue, C cue) ∧
      ∀ cue, s.pending = some cue → C cue := by
  obtain ⟨area, bag, queue, scene, cursor, heading, pending, finished⟩ := s
  cases scene <;> cases pending <;> simp [agenda, or_imp, forall_and]

theorem remaining_subset (s : Session) : s.remaining ⊆ s.agenda := by
  intro cue hcue
  unfold remaining at hcue
  cases hs : s.scene with
  | none => simp [hs] at hcue
  | some scene =>
    simp only [hs] at hcue
    simp [agenda, hs, List.mem_of_mem_drop hcue]

theorem agenda_start {w : World} (hw : w.EachCue C) (id : String) :
    ∀ cue ∈ (start (w.scene? id)).agenda, C cue := by
  rw [agenda_iff]
  exact ⟨fun scene hs => hw _ (Table.mem_of_get? hs), by simp [start], by simp [start]⟩

end Session

namespace Game

variable {C : Cue → Prop} {w : World}

theorem reset_agenda {g : Game} (hload : World.load g.document.worldRoot = .ok w)
    (hw : w.EachCue C) : ∀ cue ∈ g.reset.game.session.agenda, C cue := by
  rw [reset_game hload]
  exact Session.agenda_start hw _

theorem Effect.agenda {g after : Game} {l : Line} (he : g.Effect l after) (hC : Cue.Inherited C)
    (hreset : ∀ cue ∈ g.reset.game.session.agenda, C cue) (hg : ∀ cue ∈ g.session.agenda, C cue) :
    ∀ cue ∈ after.session.agenda, C cue := by
  have hleaves := he.leaves
  generalize after.session = left at hleaves ⊢
  cases hleaves with
  | restart => exact hreset
  | @quit question _ hq =>
    obtain ⟨asked, yes, no, rfl⟩ := quitQuestion_eq hq
    rw [Session.agenda_iff] at hg ⊢
    refine ⟨hg.1, fun cue hcue => ?_, hg.2.2⟩
    rcases List.mem_append.mp hcue with hold | hnew
    · exact hg.2.1 cue hold
    · rw [List.mem_singleton.mp hnew]
      exact hC.quit asked yes no
  | moved => exact hg

theorem played_agenda {g after : Game} {cue : Cue} (hp : Cue.Played g cue after) (hcue : C cue)
    (hg : ∀ c ∈ g.session.agenda, C c) : ∀ c ∈ after.session.agenda, C c := by
  cases hp with
  | suspend =>
    rw [Session.agenda_iff] at hg ⊢
    refine ⟨hg.1, hg.2.1, fun c hc => ?_⟩
    exact Option.some.inj hc ▸ hcue
  | _ => exact hg

theorem Turned.agenda {g after : Game} {lines : Lines} (ht : g.Turned lines after)
    (hC : Cue.Inherited C) (hreset : ∀ c ∈ g.reset.game.session.agenda, C c)
    (hg : ∀ c ∈ g.session.agenda, C c) : ∀ c ∈ after.session.agenda, C c := by
  have hparts := Session.agenda_iff.mp hg
  cases ht with
  | nothing => exact hg
  | @answer cue follow line hp hr =>
    rw [Session.agenda_iff]
    refine ⟨hparts.1, fun c hc => ?_, by simp [changeSession, Session.push]⟩
    rcases List.mem_append.mp hc with hold | hnew
    · exact hparts.2.1 c hold
    · rw [List.mem_singleton.mp hnew]
      exact hC.answered cue follow line (hparts.2.2 cue hp) hr
  | @queued cue queue _ hq hp =>
    rw [hq, List.forall_mem_cons] at hparts
    refine played_agenda hp hparts.2.1.1 ?_
    rw [Session.agenda_iff]
    exact ⟨hparts.1, hparts.2.1.2, hparts.2.2⟩
  | scripted hc hp =>
    exact played_agenda hp (hg _ (g.session.remaining_subset hc)) hg
  | line _ _ he => exact he.agenda hC hreset hg

theorem move_agenda {g : Game} (hload : World.load g.document.worldRoot = .ok w)
    (hC : Cue.Inherited C) (hw : w.EachCue C) (hg : ∀ c ∈ g.session.agenda, C c) (m : Move) :
    ∀ c ∈ (g.move m).session.agenda, C c := by
  have hreset := reset_agenda hload hw
  cases m with
  | tick lines => exact (g.tick_turned lines).agenda hC hreset hg
  | execute text => exact (g.execute_effect text).agenda hC hreset hg
  | reset => exact hreset

theorem ofDocument_agenda {document : Node} {catalogue : Catalogue} {traced : Bool} {o : Outcome}
    (h : ofDocument document catalogue traced = .ok o) (hw : o.game.world.EachCue C) :
    ∀ c ∈ o.game.session.agenda, C c := by
  obtain ⟨w, -, hgame⟩ := ofDocument_ok h
  rw [hgame] at hw ⊢
  exact Session.agenda_start hw _

end Game

end Fabula

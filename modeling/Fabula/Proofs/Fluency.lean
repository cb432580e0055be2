import Fabula.Proofs.Agenda
import Fabula.Proofs.Conservation
import Fabula.Proofs.Speech

/-!
Fluency: with the messages in English, a line or a cue breaks off over nothing but an amount that
is too long to be written.
-/

set_option autoImplicit false

namespace Fabula

def Fault.IsOverlong : Fault → Bool
  | .tooLong | .template .tooLong => true
  | _ => false

/-- A step that breaks off, if at all, over an amount that is too long, and only where there is
one. -/
def Outcome.Fluent (o : Outcome) (P : Prop) : Prop :=
  ∀ fault, o.fault = some fault → fault.IsOverlong = true ∧ P

namespace Outcome.Fluent

variable {P : Prop}

theorem of_none {o : Outcome} (h : o.fault = none) : o.Fluent P := by simp [Outcome.Fluent, h]

theorem next {o : Outcome} {step : Game → Outcome} (ho : o.Fluent P)
    (hstep : (step o.game).Fluent P) : (o.next step).Fluent P := by
  intro fault h
  rw [Outcome.next_fault] at h
  cases hf : o.fault with
  | none => exact hstep fault (by simpa [hf] using h)
  | some first => exact ho fault (by simpa [hf] using h)

theorem mono {Q : Prop} {o : Outcome} (ho : o.Fluent P) (h : P → Q) : o.Fluent Q :=
  fun fault hf => ⟨(ho fault hf).1, h (ho fault hf).2⟩

end Outcome.Fluent

theorem performAll_fluent {P : Prop} {ds : List Deed} (hquiet : ∀ d ∈ ds, d.IsQuiet = true)
    {g : Game} (h : ∀ d ∈ ds, (d.perform g).Fluent P) : (performAll ds g).Fluent P := by
  induction ds with
  | nil => exact .of_none rfl
  | cons d ds ih =>
    simp only [List.forall_mem_cons] at h hquiet
    rw [performAll_cons]
    refine h.1.next ?_
    rw [Deed.perform_quiet hquiet.1]
    exact ih hquiet.2 h.2

theorem Holdings.shown_error {h : Holdings} {fault : Fault} (he : h.shown = .error fault) :
    fault.IsOverlong = true ∧ ∃ row ∈ h, Text.tooLong ≤ row.2.natAbs := by
  rcases bind_error he with hrows | ⟨texts, -, hnever⟩
  · obtain ⟨⟨id, n⟩, hmem, hbad⟩ := exists_of_mapM_error hrows
    by_cases hn : n.natAbs < Text.tooLong
    · simp [hn] at hbad
    · simp only [hn, if_false, Except.error.injEq] at hbad
      exact ⟨by rw [← hbad]; rfl, _, hmem, Nat.le_of_not_lt hn⟩
  · cases hnever

namespace Game

/-- There is as much of an item as would be too long to be written. -/
def Overfull (g : Game) : Prop := ∃ item, (Text.tooLong : Int) ≤ g.pieces item

theorem Sound.overfull {g : Game} (hg : g.Sound) {place : Place} {h : Holdings}
    (hl : g.lying? place = some h) {row : String × Int} (hrow : row ∈ h)
    (hbig : Text.tooLong ≤ row.2.natAbs) : g.Overfull := by
  obtain ⟨item, n⟩ := row
  have hlisted := (hg.lying hl).toListed
  have hamount : h.amount item = n := by
    rw [Holdings.amount, Table.get?_of_mem hlisted.once hrow]
    rfl
  have hle := hg.amount_le_pieces hl item
  have hpositive := hlisted.positive _ hrow
  refine ⟨item, ?_⟩
  simp only at hbig hpositive
  generalize Text.tooLong = most at hbig ⊢
  omega

theorem Sound.shown_bag {g : Game} (hg : g.Sound) {fault : Fault}
    (h : g.session.bag.shown = .error fault) : fault.IsOverlong = true ∧ g.Overfull := by
  obtain ⟨hlong, row, hrow, hbig⟩ := Holdings.shown_error h
  have hbag : g.lying? .bag = some g.session.bag := rfl
  exact ⟨hlong, hg.overfull hbag hrow hbig⟩

theorem Sound.shown_ground {g : Game} (hg : g.Sound) {fault : Fault}
    (h : (g.surroundings.holdings .ground).shown = .error fault) :
    fault.IsOverlong = true ∧ g.Overfull := by
  obtain ⟨hlong, row, hrow, hbig⟩ := Holdings.shown_error h
  rw [surroundings_holdings] at hrow
  cases hl : g.lying? .ground with
  | none => simp [hl] at hrow
  | some held =>
    rw [hl, Option.getD_some] at hrow
    exact ⟨hlong, hg.overfull hl hrow hbig⟩

theorem Sound.noteText_error {g : Game} (hg : g.Sound) {n : Note} {fault : Fault}
    (h : g.noteText n = .error fault) : fault.IsOverlong = true ∧ g.Overfull := by
  cases n with
  | line text => cases h
  | bag =>
    rcases bind_error h with hbag | ⟨bag, -, hnever⟩
    · exact hg.shown_bag hbag
    · cases hnever
  | bagAndGround =>
    rcases bind_error h with hbag | ⟨bag, -, hrest⟩
    · exact hg.shown_bag hbag
    · rcases bind_error hrest with hground | ⟨ground, -, hnever⟩
      · exact hg.shown_ground hground
      · cases hnever

theorem Sound.note_fluent {g : Game} (hg : g.Sound) (n : Note) :
    ((Deed.note n).perform g).Fluent g.Overfull := by
  intro fault h
  rw [Deed.perform] at h
  cases ht : g.noteText n with
  | ok text => simp [ht] at h
  | error first =>
    simp only [ht, Outcome.failed, Option.some.injEq] at h
    exact hg.noteText_error (h ▸ ht)

theorem Sound.listBag_fluent {g : Game} (hg : g.Sound) (henglish : g.catalogue = .english) :
    (performAll g.listBag g).Fluent g.Overfull := by
  refine performAll_fluent g.listBag_quiet fun d hd => ?_
  unfold listBag at hd
  cases hbag : g.session.bag with
  | nil =>
    simp only [hbag, List.mem_singleton] at hd
    subst hd
    exact .of_none (Deed.perform_smooth rfl henglish)
  | cons first rows =>
    simp only [hbag] at hd
    rcases List.mem_cons.mp hd with rfl | hd
    · exact .of_none (Deed.perform_smooth rfl henglish)
    · obtain ⟨⟨id, n⟩, hrow, rfl⟩ := List.mem_map.mp hd
      intro fault hf
      have hknows : Catalogue.english.knows "inventory_entry"
          ([("item", g.itemName id), ("amount", Filler.number n)].map (·.1)) = true :=
        Catalogue.forms_known ("inventory_entry", ["item", "amount"]) (by simp [Catalogue.forms])
      rw [Deed.perform] at hf
      rcases filled_english henglish hknows with ⟨text, ht⟩ | ⟨ht, name, m, hm, hbig⟩
      · simp [ht, showing] at hf
      · simp only [ht, showing, Outcome.failed, Option.some.injEq] at hf
        have hmn : name = "amount" ∧ m = n := by simpa [itemName] using hm
        have hlying : g.lying? .bag = some (first :: rows) := by rw [lying?, hbag]
        exact ⟨by rw [← hf]; rfl, hg.overfull hlying hrow (hmn.2 ▸ hbig)⟩

theorem Sound.carried_fluent {g : Game} (hg : g.Sound) (henglish : g.catalogue = .english)
    {item : Item} (hitem : item.id ∈ g.world.items.keys) {source target : Place}
    (htarget : target = .bag ∨ target = .ground ∧ g.area?.isSome) (n : Note) {key : String}
    (hform : (key, ["item"]) ∈ Catalogue.forms) :
    (performAll [.carry item.id source target, .note n, .fill key [("item", .text item.name)]]
      g).Fluent g.Overfull := by
  have hcarried := hg.carry hitem source target
  have hcatalogue : (g.carry item.id source target).catalogue = .english :=
    (SameStory.carry g item.id source target).catalogue.trans henglish
  have hpieces : (g.carry item.id source target).Overfull → g.Overfull := by
    rintro ⟨other, hother⟩
    rw [hg.pieces_carry htarget] at hother
    exact ⟨other, hother⟩
  have hrest : (performAll [.note n, .fill key [("item", .text item.name)]]
      (g.carry item.id source target)).Fluent (g.carry item.id source target).Overfull := by
    refine performAll_fluent (by simp [Deed.IsQuiet]) fun d hd => ?_
    simp only [List.mem_cons, List.not_mem_nil, or_false] at hd
    rcases hd with rfl | rfl
    · exact hcarried.note_fluent n
    · exact .of_none (Deed.perform_smooth (Deed.fill_smooth hform rfl) hcatalogue)
  rw [performAll_cons]
  exact Outcome.Fluent.next (.of_none rfl) (hrest.mono hpieces)

theorem Sound.dropItem_fluent {g : Game} (hg : g.Sound) (henglish : g.catalogue = .english)
    (args : List String) : (performAll (g.dropItem args) g).Fluent g.Overfull := by
  have hfail : (performAll [.say "drop_failure"] g).Fluent g.Overfull :=
    .of_none (performAll_smooth (by simp [Deed.IsSmooth]; rfl) henglish)
  unfold dropItem
  cases ha : g.area? with
  | none => exact hfail
  | some area =>
    cases hi : g.surroundings.itemIn? .bag (Text.unwords args) with
    | none => exact hfail
    | some item =>
      exact hg.carried_fluent henglish (hg.item_known hi) (.inr ⟨rfl, by simp [ha]⟩) _
        (by simp [Catalogue.forms])

theorem Sound.takeItem_fluent {g : Game} (hg : g.Sound) (henglish : g.catalogue = .english)
    (args : List String) : (performAll (g.takeItem args) g).Fluent g.Overfull := by
  have hfail : (performAll [.say "take_failure"] g).Fluent g.Overfull :=
    .of_none (performAll_smooth (by simp [Deed.IsSmooth]; rfl) henglish)
  unfold takeItem
  cases ht : g.surroundings.target? args with
  | none => exact hfail
  | some target =>
    cases target with
    | fixture i f => exact hfail
    | item item place =>
      obtain ⟨word, hi⟩ := Surroundings.target?_item ht
      have hcarried : ∀ source n, (performAll [.carry item.id source .bag, .note n,
          .fill "taken" [("item", .text item.name)]] g).Fluent g.Overfull := fun source n =>
        hg.carried_fluent henglish (hg.item_known hi) (.inl rfl) n (by simp [Catalogue.forms])
      cases place with
      | bag =>
        refine .of_none (performAll_smooth (fun d hd => ?_) henglish)
        rw [List.mem_singleton.mp hd]
        exact Deed.fill_smooth (by simp [Catalogue.forms]) rfl
      | ground => exact hcarried .ground .bag
      | fixture i => exact hcarried (.fixture i) .bag

theorem Steady.restart_fault {g : Game} (hg : g.Steady) (henglish : g.catalogue = .english) :
    (performAll [.say "restarted", .restart] g).fault = none := by
  obtain ⟨w, hload, -⟩ := hg.again
  have hsay : ((Deed.say "restarted").perform g).fault = none := Deed.perform_smooth rfl henglish
  have hreset : (performAll [.restart] g).fault = none := by
    rw [performAll_cons, Outcome.next_fault, Deed.perform, reset_eq hload]
    rfl
  rw [performAll_cons, Outcome.next_fault, hsay, Deed.perform_quiet rfl]
  exact hreset

theorem Steady.verb_fluent {g : Game} (hg : g.Steady) (henglish : g.catalogue = .english)
    (v : Verb) (args : List String) : (performAll (v.deeds args g) g).Fluent g.Overfull := by
  cases v with
  | restart => exact .of_none (hg.restart_fault henglish)
  | quit => exact .of_none (performAll_smooth (by simp [Verb.deeds, Deed.IsSmooth]) henglish)
  | items => exact hg.sound.listBag_fluent henglish
  | drop => exact hg.sound.dropItem_fluent henglish args
  | take => exact hg.sound.takeItem_fluent henglish args
  | examine => exact .of_none (performAll_smooth (g.examine_smooth args) henglish)
  | go => exact .of_none (performAll_smooth (g.go_smooth args) henglish)
  | unlock => exact .of_none (performAll_smooth (g.unlock_smooth args) henglish)
  | look => exact .of_none (performAll_smooth g.look_smooth henglish)

theorem Steady.execute_fluent {g : Game} (hg : g.Steady) (henglish : g.catalogue = .english)
    (text : String) : (g.execute text).outcome.Fluent g.Overfull := by
  unfold execute
  by_cases hblank : (Line.ofText text).verb = ""
  · simp only [hblank, if_true]
    exact .of_none rfl
  · simp only [hblank, if_false]
    cases hd : (Line.ofText text).deeds? g with
    | none => exact Outcome.Fluent.next (.of_none rfl) (.of_none (Deed.perform_smooth rfl henglish))
    | some deeds =>
      refine Outcome.Fluent.next (.of_none rfl) ?_
      obtain ⟨v, -, hv⟩ := Option.bind_eq_some_iff.mp hd
      split at hv
      · cases hv
      · cases hv
        exact hg.verb_fluent henglish v _

theorem play_smooth {g : Game} (henglish : g.catalogue = .english) {cue : Cue}
    (hcue : ∀ action ∈ cue.actions, action = .finish) : (cue.play g).fault = none := by
  have hsmooth : ∀ d ∈ cue.deeds, d.IsSmooth = true := by
    intro d hd
    cases cue with
    | narrate text => rw [List.mem_singleton.mp hd]; rfl
    | enter area =>
      simp only [Cue.deeds, List.mem_cons, List.not_mem_nil, or_false] at hd
      rcases hd with rfl | rfl <;> rfl
    | pass => cases hd
    | act action =>
      obtain rfl := hcue action (by simp [Cue.actions])
      simp only [Cue.deeds, List.mem_cons, List.not_mem_nil, or_false] at hd
      rcases hd with rfl | rfl | rfl <;> rfl
    | choose question options =>
      rcases List.mem_cons.mp hd with rfl | hd
      · rfl
      · obtain ⟨i, hi, rfl⟩ := List.mem_mapIdx.mp hd
        rfl
  rw [Cue.play, Outcome.next_fault, performAll_smooth hsmooth henglish]
  cases cue.completes <;> rfl

end Game

end Fabula

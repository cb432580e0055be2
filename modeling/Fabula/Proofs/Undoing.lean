import Fabula.Proofs.Display
import Fabula.Proofs.Handover

/-!
Taking and dropping undo each other. Where the names of items differ in more than case, what has
been taken by its name is dropped by the same words, and the other way round; and then there is as
much of everything everywhere as before.
-/

set_option autoImplicit false

namespace Fabula

def World.NamesApart (w : World) : Prop :=
  ∀ id item, w.item? id = some item → ∀ id' item', w.item? id' = some item' →
    Text.caseFold item.name = Text.caseFold item'.name → id = id'

theorem World.SameOutline.namesApart {w v : World} (h : w.SameOutline v) (hw : w.NamesApart) :
    v.NamesApart := by
  have hitems : v.item? = w.item? := by
    funext id
    rw [World.item?, World.item?, h.items]
  rw [World.NamesApart, hitems]
  exact hw

namespace Game

/-- One line hands an item on, and another one hands it back, after lines that only ask. Then there
is as much of everything around as before, and nothing else is changed. -/
structure Undone (w : World) (g : Game) (first : String) (asides : List String) (second : String)
    (key key' : String) (item : Item) (source target : Place) : Prop where
  there : g.Hands w first key item source target
  back : ((g.execute first).outcome.game.after (asides.map .execute)).Hands w second key' item
    target source
  evened : g.Shifted [source, target] (fun _ _ => 0)
    (((g.execute first).outcome.game.after (asides.map .execute)).execute second).outcome.game

section

variable {g : Game} {word : String} {item : Item}

theorem named_of_itemIn? {place : Place} (hnumeral : ∀ n : Nat, word ≠ Text.decimal n)
    (h : g.surroundings.itemIn? place word = some item) :
    Text.caseFold word = Text.caseFold item.name := by
  obtain ⟨k, hk⟩ := Surroundings.itemIn?_eq_some.mp h
  exact hk.meant.resolve_left (hnumeral (1 + k))

theorem Sound.itemIn?_of_named (hg : g.Sound) (hapart : g.world.NamesApart)
    (hitem : g.world.item? item.id = some item) (hname : Text.caseFold word = Text.caseFold item.name)
    (hnumeral : ∀ n : Nat, word ≠ Text.decimal n) {place : Place} {held : Holdings}
    (hheld : g.lying? place = some held) (hpresent : 0 < held.amount item.id) :
    g.surroundings.itemIn? place word = some item := by
  rw [← Holdings.mem_keys_iff (hg.lying hheld).toListed] at hpresent
  obtain ⟨n, hmem⟩ := Table.mem_keys.mp hpresent
  obtain ⟨k, hk⟩ := List.mem_iff_getElem?.mp hmem
  have hat : g.surroundings.itemAt? held k = some item := by
    rw [Surroundings.itemAt?, hk]
    exact hitem
  obtain ⟨j, first, hfirst⟩ := exists_firstMeant hat (.inr hname)
  -- What is meant first bears the name, too, and so is the item.
  obtain ⟨id, -, -, hget⟩ := itemAt?_eq_some hfirst.there
  have hsame : Text.caseFold word = Text.caseFold first.name :=
    hfirst.meant.resolve_left (hnumeral (1 + j))
  obtain rfl : id = item.id := hapart id first hget _ item hitem (hsame.symm.trans hname)
  obtain rfl := Option.some.inj (hget.symm.trans hitem)
  refine Surroundings.itemIn?_eq_some.mpr ⟨j, ?_⟩
  rw [surroundings_holdings, hheld]
  exact hfirst

theorem after_asides {asides : List String}
    (hasides : ∀ text ∈ asides, (Line.ofText text).verb ∈ ["look", "items", "examine"]) :
    g.after (asides.map .execute) = g := by
  induction asides with
  | nil => rfl
  | cons text asides ih =>
    rw [List.forall_mem_cons] at hasides
    have hnothing : (g.execute text).outcome.game = g :=
      (g.execute_effect text).reading (List.mem_cons_of_mem _ hasides.1)
    rw [List.map_cons]
    change (g.execute text).outcome.game.after (asides.map .execute) = g
    rw [hnothing]
    exact ih hasides.2

theorem Effect.taken {after : Game} {l : Line} (he : g.Effect l after) (hverb : l.verb = "take")
    (hdone : after ≠ g) : ∃ item place, g.surroundings.target? l.args = some (.item item place) ∧
      place ≠ .bag := by
  cases he with
  | none => exact absurd rfl hdone
  | take _ ht hplace => exact ⟨_, _, ht, hplace⟩
  | _ => simp_all

theorem Effect.dropped {after : Game} {l : Line} (he : g.Effect l after) (hverb : l.verb = "drop")
    (hdone : after ≠ g) : ∃ area item, g.area? = some area ∧
      g.surroundings.itemIn? .bag l.argument = some item := by
  cases he with
  | none => exact absurd rfl hdone
  | drop _ harea hitem => exact ⟨_, _, harea, hitem⟩
  | _ => simp_all

theorem Carried.arrived {source target : Place} {after : Game} (hg : g.Sound)
    (h : g.Carried item.id source target after) (hapart : source ≠ target) :
    ∃ later, after.lying? target = some later ∧ 0 < later.amount item.id := by
  obtain ⟨there, hthere⟩ := Option.isSome_iff_exists.mp h.there
  obtain ⟨later, hlater, hamount⟩ := h.amounts target there hthere
  have hnonneg := Holdings.amount_nonneg (hg.lying hthere).toListed item.id
  refine ⟨later, hlater, ?_⟩
  rw [hamount]
  simp only [Ne.symm hapart, false_and, if_false, and_self, if_true]
  omega

theorem Hands.undone {w : World} {first second key key' : String} {asides : List String}
    {source target : Place}
    (hasides : ∀ text ∈ asides, (Line.ofText text).verb ∈ ["look", "items", "examine"])
    (hthere : g.Hands w first key item source target)
    (hback : (g.execute first).outcome.game.Hands w second key' item target source) :
    g.Undone w first asides second key key' item source target := by
  have hnothing := after_asides (g := (g.execute first).outcome.game) hasides
  have hfirst : g.Shifted [source, target] (transfer (onePiece item.id) source target)
      (g.execute first).outcome.game := hthere.carried.shifted (by simp) (by simp)
  have hboth := hfirst.trans (hback.carried.shifted (by simp) (by simp))
  have hnone : (fun place other => transfer (onePiece item.id) source target place other +
      transfer (onePiece item.id) target source place other) = fun _ _ => 0 := by
    funext place other
    simp only [transfer]
    omega
  refine ⟨hthere, ?_, ?_⟩ <;> rw [hnothing]
  · exact hback
  · rw [← hnone]
    exact hboth

end

section

variable {document : Node} {w : World} {g : Game} {item : Item}
  (hload : World.load document.worldRoot = .ok w) (hg : g.Tallied document w)
  (hapart : g.world.NamesApart)

include hload hg hapart

/-- What has been handed on is meant by its name in the place where it came to lie. -/
theorem Hands.meant {text key : String} {source target : Place}
    (hthere : g.Hands w text key item source target) (hother : source ≠ target) {word : String}
    (hname : Text.caseFold word = Text.caseFold item.name)
    (hnumeral : ∀ n : Nat, word ≠ Text.decimal n) :
    (g.execute text).outcome.game.surroundings.itemIn? target word = some item := by
  have hlater : (g.execute text).outcome.game.Tallied document w :=
    hg.move hload g (.execute text)
  have hknown : (g.execute text).outcome.game.world.item? item.id = some item := by
    rw [World.item?, hthere.carried.outline.items]
    exact hthere.known
  obtain ⟨held, hheld, hpresent⟩ := hthere.carried.arrived hg.steady.sound hother
  exact hlater.steady.sound.itemIn?_of_named (hthere.carried.outline.namesApart hapart) hknown hname
    hnumeral hheld hpresent

variable {words : List String} (hfrom : ∀ word ∈ words, Text.caseFold word ≠ "from")
  (hnumeral : ∀ n : Nat, Text.unwords words ≠ Text.decimal n) {take drop : String}
  (htake : Line.ofText take = ⟨"take", words⟩) (hdrop : Line.ofText drop = ⟨"drop", words⟩)
  {asides : List String}
  (hasides : ∀ text ∈ asides, (Line.ofText text).verb ∈ ["look", "items", "examine"])

include hfrom hnumeral htake hdrop hasides

theorem Tallied.take_undone (hdone : (g.execute take).outcome.game ≠ g) :
    ∃ item, g.Undone w take asides drop "taken" "dropped" item .ground .bag := by
  have hwords : "" ∉ words := by simpa [htake] using Line.empty_not_mem_args take
  obtain ⟨item, place, ht, hplace⟩ := (g.execute_effect take).taken (by rw [htake]) hdone
  have htarget : g.surroundings.target? words = some (.item item place) := by rwa [htake] at ht
  cases (Surroundings.target?_eq_some hwords).mp htarget with
  | taken hclause =>
    cases hclause with
    | split _ hmarker => exact absurd hmarker (hfrom _ (by simp))
  | @loose area k _ _ hne harea hmeant =>
    rw [← Surroundings.holdings_ground harea] at hmeant
    have hname := named_of_itemIn? hnumeral (Surroundings.itemIn?_eq_some.mpr ⟨k, hmeant⟩)
    have hthere := hg.take_hands hload (by rw [htake]) ht hplace
    have hlater : (g.execute take).outcome.game.Tallied document w :=
      hg.move hload g (.execute take)
    -- The ground is still there, and the area with it.
    have hground : g.lying? .ground = some area.items := by
      rw [lying?, show g.area? = some area from harea]
      rfl
    obtain ⟨held, hheld, -⟩ := hthere.carried.amounts .ground _ hground
    obtain ⟨after, hafter, -⟩ := Option.map_eq_some_iff.mp hheld
    have hback : (g.execute take).outcome.game.Hands w drop "dropped" item .bag .ground :=
      hlater.drop_hands hload (by rw [hdrop]) (by rwa [hdrop]) hafter
        (by rw [hdrop]; exact hthere.meant hload hg hapart (by simp) hname hnumeral)
    exact ⟨item, hthere.undone hasides hback⟩

theorem Tallied.drop_undone (hdone : (g.execute drop).outcome.game ≠ g) :
    ∃ item, g.Undone w drop asides take "dropped" "taken" item .bag .ground := by
  have hwords : "" ∉ words := by simpa [htake] using Line.empty_not_mem_args take
  obtain ⟨area, item, harea, hitem⟩ := (g.execute_effect drop).dropped (by rw [hdrop]) hdone
  have hbag : g.surroundings.itemIn? .bag (Text.unwords words) = some item := by
    rwa [hdrop] at hitem
  have hargs : words ≠ [] := by
    rintro rfl
    exact hdone (execute_unasked (v := .drop) (by rw [hdrop]; rfl) rfl (by rw [hdrop]))
  have hthere := hg.drop_hands hload (by rw [hdrop]) (by rwa [hdrop]) harea hitem
  have hlater : (g.execute drop).outcome.game.Tallied document w :=
    hg.move hload g (.execute drop)
  have hground := hthere.meant hload hg hapart (by simp) (named_of_itemIn? hnumeral hbag) hnumeral
  have hback : (g.execute drop).outcome.game.Hands w take "taken" item .ground .bag := by
    refine hlater.take_hands hload (by rw [htake]) ?_ (by simp)
    rw [htake, Surroundings.target?_whole (.whole hfrom) hwords, if_neg hargs, hground]
    rfl
  exact ⟨item, hthere.undone hasides hback⟩

end

/-- In a world whose items have names of their own, what is taken by words that are no numeral is
dropped by the same words, and what is dropped by them is taken again, however the game has been
played before and whatever is only looked at in between. Then there is as much of everything as at
first. -/
theorem take_and_drop_undo {document : Node} {catalogue : Catalogue} {traced : Bool} {o : Outcome}
    {w : World} (h : ofDocument document catalogue traced = .ok o)
    (hw : World.ofDocument document = .ok w) (hapart : w.NamesApart) (moves : List Move)
    {words : List String} (hfrom : ∀ word ∈ words, Text.caseFold word ≠ "from")
    (hnumeral : ∀ n : Nat, Text.unwords words ≠ Text.decimal n) {take drop : String}
    (htake : Line.ofText take = ⟨"take", words⟩) (hdrop : Line.ofText drop = ⟨"drop", words⟩)
    {asides : List String}
    (hasides : ∀ text ∈ asides, (Line.ofText text).verb ∈ ["look", "items", "examine"]) :
    (((o.game.after moves).execute take).outcome.game ≠ o.game.after moves →
      ∃ item, (o.game.after moves).Undone w take asides drop "taken" "dropped" item .ground .bag) ∧
    (((o.game.after moves).execute drop).outcome.game ≠ o.game.after moves →
      ∃ item, (o.game.after moves).Undone w drop asides take "dropped" "taken" item .bag .ground) := by
  have hload := (World.ofDocument_ok.mp hw).2
  have hg := (ofDocument_tallied h hw).after hload moves
  have hnow := (after_outline h hw moves).namesApart hapart
  exact ⟨hg.take_undone hload hnow hfrom hnumeral htake hdrop hasides,
    hg.drop_undone hload hnow hfrom hnumeral htake hdrop hasides⟩

theorem take_and_drop_undo_sample : ∃ o w, ofDocument Sample.document .english false = .ok o ∧
    World.ofDocument Sample.document = .ok w ∧
    (∃ item, (o.game.after arrival).Undone w "take COIN" ["look", "items"] "drop COIN"
      "taken" "dropped" item .ground .bag) ∧
    ∃ item, (o.game.after (arrival ++ [.execute "take 1"])).Undone w "drop COIN"
      ["look", "items"] "take COIN" "dropped" "taken" item .bag .ground := by
  have hworld : (World.ofDocument Sample.document).toOption.any (fun w =>
      w.items.all fun row => w.items.all fun other =>
        Text.caseFold row.2.name != Text.caseFold other.2.name || row.1 == other.1) = true := by
    decide +kernel
  obtain ⟨w, hw, hnames⟩ := ok_of_any hworld
  simp only [List.all_eq_true, Bool.or_eq_true, bne_iff_ne, beq_iff_eq] at hnames
  have hapart : w.NamesApart := fun id item hitem id' item' hitem' hsame =>
    (hnames _ (Table.mem_of_get? hitem) _ (Table.mem_of_get? hitem')).resolve_left (· hsame)
  have hrun : (ofDocument Sample.document .english false).toOption.any (fun o =>
      ((o.game.after arrival).execute "take COIN").outcome.game.session.bag !=
        (o.game.after arrival).session.bag &&
      ((o.game.after (arrival ++ [.execute "take 1"])).execute
        "drop COIN").outcome.game.session.bag !=
        (o.game.after (arrival ++ [.execute "take 1"])).session.bag) = true := by decide +kernel
  obtain ⟨o, ho, hbags⟩ := opens_with hrun
  simp only [Bool.and_eq_true, bne_iff_ne] at hbags
  have hfrom : ∀ word ∈ ["COIN"], Text.caseFold word ≠ "from" := by decide +kernel
  have htake : Line.ofText "take COIN" = ⟨"take", ["COIN"]⟩ := by decide +kernel
  have hdrop : Line.ofText "drop COIN" = ⟨"drop", ["COIN"]⟩ := by decide +kernel
  have hasides : ∀ text ∈ ["look", "items"],
      (Line.ofText text).verb ∈ ["look", "items", "examine"] := by decide +kernel
  have hnumeral : ∀ n : Nat, Text.unwords ["COIN"] ≠ Text.decimal n := not_numeral (by decide)
  refine ⟨o, w, ho, hw, ?_, ?_⟩
  · exact (take_and_drop_undo ho hw hapart arrival hfrom hnumeral htake hdrop hasides).1
      fun hsame => hbags.1 (by rw [hsame])
  · exact (take_and_drop_undo ho hw hapart (arrival ++ [.execute "take 1"]) hfrom hnumeral htake
      hdrop hasides).2 fun hsame => hbags.2 (by rw [hsame])

/-- A coin of the hoard is taken, and that is said; it is dropped again, and that can not be said. -/
theorem coin_dropped_in_silence : ∃ o w, ofDocument (hoard Text.nines) .english false = .ok o ∧
    World.ofDocument (hoard Text.nines) = .ok w ∧ w.NamesApart ∧ w.Unnumbered ∧
    (o.game.after [.tick []]).area?.isSome ∧
    ((o.game.after [.tick []]).execute "take coin").Says "Took Coin." ∧
    ¬((o.game.after [.tick [], .execute "take coin"]).execute "drop coin").Says "Dropped Coin." := by
  obtain ⟨o, ho, hgame, -⟩ := hoard_opens
  obtain ⟨w, hw, hstart⟩ := ofDocument_ok ho
  have hworld : o.game.world = w := by rw [hstart]
  have hcoin : ∀ id item, w.item? id = some item → id = "coin" ∧ item.name = "Coin" := by
    intro id item hitem
    have hmem := Table.mem_of_get? hitem
    rw [← hworld, hgame] at hmem
    cases List.mem_singleton.mp hmem
    exact ⟨rfl, rfl⟩
  have hbare : ∀ id a, w.area? id = some a → a.fixtures = [] := by
    intro id a ha
    have hmem := Table.mem_of_get? ha
    rw [← hworld, hgame] at hmem
    exact congrArg (fun row : String × Area => row.2.fixtures) (List.mem_singleton.mp hmem)
  have hnumbers : w.Unnumbered := by
    refine ⟨fun id item hitem => ?_, fun id a ha f hf => ?_⟩
    · rw [(hcoin id item hitem).2]
      exact not_numeral (by decide)
    · rw [hbare id a ha] at hf
      cases hf
  have hrun : (((hoardGame.after [.tick []]).execute "take coin").outcome.seen ==
        [.shown "Took Coin."] && (hoardGame.after [.tick []]).area?.isSome &&
      ((hoardGame.after [.tick []]).execute "take coin").outcome.fault.isNone &&
      ((hoardGame.after [.tick [], .execute "take coin"]).execute
        "drop coin").outcome.seen.isEmpty) = true := by decide +kernel
  simp only [Bool.and_eq_true, beq_iff_eq, Option.isNone_iff_eq_none, List.isEmpty_iff] at hrun
  obtain ⟨⟨⟨htaken, harea⟩, hfault⟩, hsilent⟩ := hrun
  rw [← hgame] at htaken harea hfault hsilent
  refine ⟨o, w, ho, hw, fun id item hitem id' item' hitem' _ => ?_, hnumbers, harea,
    ⟨htaken, hfault⟩, fun h => ?_⟩
  · rw [(hcoin id item hitem).1, (hcoin id' item' hitem').1]
  · have hseen := h.seen
    rw [hsilent] at hseen
    cases hseen

end Game

end Fabula

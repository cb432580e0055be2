import Fabula.Proofs.Display
import Fabula.Proofs.Handover

set_option autoImplicit false

namespace Fabula

namespace Holdings

def count (h : Holdings) : Nat := (total (fun row : String × Int => row.2) h).toNat

theorem total_remove_one {h : Holdings} {item : String} (hitem : 0 < h.amount item) :
    total (fun row : String × Int => row.2) (h.remove item 1) =
      total (fun row : String × Int => row.2) h - 1 := by
  have hput := Table.total_put (fun n : Int => n) item (h.amount item - 1) h
  have herase := Table.total_erase (fun n : Int => n) item h
  have hpresent : ¬(h.amount item ≤ 0 ∨ (1 : Int) ≤ 0) := by omega
  have hamount : ((Table.get? h item).map fun n : Int => n).getD 0 = h.amount item := by
    rw [amount, Option.map_id']
  rw [remove, if_neg hpresent]
  split
  · rw [hput, hamount]
    omega
  · rw [herase, hamount]
    omega

theorem count_remove {h : Holdings} (hl : h.Listed) {item : String} (hitem : 0 < h.amount item) :
    (h.remove item 1).count + 1 = h.count := by
  have hless := total_remove_one hitem
  have hleft : 0 ≤ total (fun row : String × Int => row.2) (h.remove item 1) :=
    total_nonneg fun row hrow => Int.le_of_lt ((listed_remove hl item 1).positive row hrow)
  rw [count, count]
  omega

theorem count_eq_zero {h : Holdings} (hl : h.Listed) : h.count = 0 ↔ h = [] := by
  constructor
  · intro hnone
    cases h with
    | nil => rfl
    | cons row rest =>
      have hrow := hl.positive row (List.mem_cons_self ..)
      have hle := le_total (fun row : String × Int => row.2)
        (fun row hrow => Int.le_of_lt (hl.positive row hrow)) (List.mem_cons_self (a := row))
      rw [count] at hnone
      omega
  · rintro rfl
    rfl

end Holdings

namespace Game

def repeated (g : Game) (text : String) (n : Nat) : Game :=
  g.after (List.replicate n (.execute text))

/-- A line that hands on one piece of what is listed first, and says so, if no amount is too long to
be written. -/
structure HandsFirst (w : World) (g : Game) (text told : String) (source target : Place)
    (item : Item) : Prop where
  first : ∃ n rest, g.lying? source = some ((item.id, n) :: rest)
  known : g.world.item? item.id = some item
  carried : g.Carried item.id source target (g.execute text).outcome.game
  said : (g.execute text).Says (told ++ item.name ++ ".") ∨
    ∃ fault, (g.execute text).outcome.fault = some fault ∧ fault.OverAmount w

/-- A line that hands on what is listed first in a place, until nothing is left there. -/
structure Draws (w : World) (g : Game) (text told refusal : String) (source target : Place) :
    Prop where
  hands : ∀ row rest, g.lying? source = some (row :: rest) →
    ∃ item, g.HandsFirst w text told source target item
  declines : g.lying? source = some [] → (g.execute text).Declines g refusal

/-- A line that clears a place, if it is given as many times as there are pieces. -/
structure Clears (w : World) (g : Game) (text told refusal : String) (source target : Place)
    (held : Holdings) : Prop where
  handed : ∀ i, i < held.count →
    ∃ item, (g.repeated text i).HandsFirst w text told source target item
  cleared : (g.repeated text held.count).lying? source = some []
  shifted : g.Shifted [source, target] (transfer held.amount source target)
    (g.repeated text held.count)
  further : ∀ i, held.count ≤ i → g.repeated text i = g.repeated text held.count ∧
    ((g.repeated text i).execute text).Declines (g.repeated text held.count) refusal

section

variable {g : Game} {text : String}

theorem repeated_succ (g : Game) (text : String) (n : Nat) :
    g.repeated text (n + 1) = (g.execute text).outcome.game.repeated text n := rfl

theorem repeated_succ_last (g : Game) (text : String) (n : Nat) :
    g.repeated text (n + 1) = ((g.repeated text n).execute text).outcome.game := by
  rw [repeated, List.replicate_succ', after_append]
  rfl

theorem repeated_same (h : (g.execute text).outcome.game = g) (n : Nat) :
    g.repeated text n = g := by
  induction n with
  | zero => rfl
  | succ n ih => rw [repeated_succ, h, ih]

theorem Carried.left {item : String} {source target : Place} {after : Game}
    (h : g.Carried item source target after) (hother : source ≠ target) {held : Holdings}
    (hheld : g.lying? source = some held) : after.lying? source = some (held.remove item 1) := by
  rw [h.carry, Game.carry, lying?_changeHoldings, if_neg (Ne.symm hother), lying?_changeHoldings,
    if_pos rfl, hheld, Option.map_some]

variable {w : World} {told refusal : String} {source target : Place}

theorem Clears.nil (hempty : g.lying? source = some [])
    (hdeclines : (g.execute text).Declines g refusal) :
    g.Clears w text told refusal source target [] := by
  have hsame := repeated_same hdeclines.game
  have hnone : transfer (Holdings.amount []) source target = fun _ _ => 0 := by
    funext place item
    simp [transfer, Holdings.amount]
  refine ⟨fun i hi => absurd hi (Nat.not_lt_zero i), by rwa [hsame], ?_, fun i _ => ?_⟩
  · rw [hsame, hnone]
    exact .refl g _
  · rw [hsame, hsame]
    exact ⟨rfl, hdeclines⟩

theorem HandsFirst.clears {item : Item} (h : g.HandsFirst w text told source target item)
    {held : Holdings} (hl : held.Listed) (hitem : 0 < held.amount item.id)
    (hrest : (g.execute text).outcome.game.Clears w text told refusal source target
      (held.remove item.id 1)) : g.Clears w text told refusal source target held := by
  have hcount := Holdings.count_remove hl hitem
  have hpieces : transfer held.amount source target = fun place other =>
      transfer (onePiece item.id) source target place other +
        transfer (held.remove item.id 1).amount source target place other := by
    funext place other
    have hless := Holdings.amount_remove hl item.id 1 other
    rw [Holdings.removable_one hitem] at hless
    simp only [transfer, onePiece, hless, eq_comm (a := other)]
    split_ifs <;> omega
  refine ⟨fun i hi => ?_, ?_, ?_, fun i hi => ?_⟩
  · cases i with
    | zero => exact ⟨item, h⟩
    | succ i => exact hrest.handed i (by omega)
  · rw [← hcount, repeated_succ]
    exact hrest.cleared
  · rw [← hcount, repeated_succ, hpieces]
    exact (h.carried.shifted (by simp) (by simp)).trans hrest.shifted
  · obtain ⟨i, rfl⟩ : ∃ j, i = j + 1 := ⟨i - 1, by omega⟩
    rw [← hcount, repeated_succ, repeated_succ]
    exact hrest.further i (by omega)

theorem clears_of_draws (hother : source ≠ target) (hsound : ∀ n, (g.repeated text n).Sound)
    (hdraws : ∀ n, (g.repeated text n).Draws w text told refusal source target) {held : Holdings}
    (hheld : g.lying? source = some held) :
    g.Clears w text told refusal source target held := by
  -- Each line given takes one from the count of what is left.
  induction hn : held.count generalizing g held with
  | zero =>
    obtain rfl := (Holdings.count_eq_zero ((hsound 0).lying hheld).toListed).mp hn
    exact .nil hheld ((hdraws 0).declines hheld)
  | succ n ih =>
    have hl := ((hsound 0).lying hheld).toListed
    cases held with
    | nil => cases hn
    | cons row rest =>
      obtain ⟨item, hitem⟩ := (hdraws 0).hands row rest hheld
      obtain ⟨there, hthere, hpresent⟩ := hitem.carried.present
      obtain rfl := Option.some.inj (hheld.symm.trans hthere)
      have hcount := Holdings.count_remove hl hpresent
      exact hitem.clears hl hpresent (ih (fun n => hsound (n + 1)) (fun n => hdraws (n + 1))
        (hitem.carried.left hother hheld) (by omega))

end

def fixtureNames? (g : Game) : Option (List String) :=
  g.area?.map fun a => a.fixtures.map (·.name)

section

variable {g : Game} {text : String}

theorem fixtureNames?_carry (g : Game) (item : String) (source target : Place) :
    (g.carry item source target).fixtureNames? = g.fixtureNames? := by
  obtain ⟨bag, hbag⟩ := g.carry_session item source target
  have houtline := g.carry_outline item source target
  have hnames (a : Area) : a.outline.fixtures.map (·.name) = a.fixtures.map (·.name) := by
    rw [Area.outline, List.map_map]
    rfl
  rw [fixtureNames?, fixtureNames?, area?, area?, hbag]
  cases g.session.area with
  | none => rfl
  | some id =>
    have hsame := congrArg (Option.map fun a : Area => a.fixtures.map (·.name)) (houtline.areas id)
    simpa [Option.map_map, Function.comp_def, hnames] using hsame

theorem fixtureNames?_execute (hverb : (Line.ofText text).verb = "take" ∨
    (Line.ofText text).verb = "drop") :
    (g.execute text).outcome.game.fixtureNames? = g.fixtureNames? := by
  have he := g.execute_effect text
  generalize (g.execute text).outcome.game = after at he
  cases he with
  | none => rfl
  | take => exact fixtureNames?_carry g _ _ _
  | drop => exact fixtureNames?_carry g _ _ _
  | _ => simp_all

theorem fixtureNames?_repeated (hverb : (Line.ofText text).verb = "take" ∨
    (Line.ofText text).verb = "drop") (n : Nat) :
    (g.repeated text n).fixtureNames? = g.fixtureNames? := by
  induction n with
  | zero => rfl
  | succ n ih => rw [repeated_succ_last, fixtureNames?_execute hverb, ih]

theorem Sound.itemIn?_one (hg : g.Sound) {place : Place} {row : String × Int} {rest : Holdings}
    (hl : g.lying? place = some (row :: rest)) :
    ∃ item, item.id = row.1 ∧ g.surroundings.itemIn? place "1" = some item := by
  obtain ⟨item, -, hid, hat⟩ := hg.listed_item (i := 0) hl rfl
  have hone : FirstMeant "1" 1 (g.surroundings.itemAt? (row :: rest)) Item.name 0 item :=
    firstMeant_number (fun j hj => absurd hj (Nat.not_lt_zero j)) hat
  refine ⟨item, hid, Surroundings.itemIn?_eq_some.mpr ⟨0, ?_⟩⟩
  rw [surroundings_holdings, hl]
  exact hone

theorem itemIn?_empty {place : Place} (hl : g.lying? place = some []) (word : String) :
    g.surroundings.itemIn? place word = none := by
  rw [Surroundings.itemIn?, surroundings_holdings, hl]
  rfl

theorem Hands.first {w : World} {key told : String} {item : Item} {source target : Place}
    (h : g.Hands w text key item source target) {row : String × Int} {rest : Holdings}
    (hid : item.id = row.1) (hl : g.lying? source = some (row :: rest))
    (htold : g.filled key [("item", .text item.name)] = .ok (told ++ item.name ++ ".")) :
    g.HandsFirst w text told source target item :=
  ⟨⟨row.2, rest, by rw [hl, hid]⟩, h.known, h.carried, h.said _ htold⟩

theorem takeItem_nothing {args : List String}
    (hnone : ∀ item place, g.surroundings.target? args ≠ some (.item item place)) :
    g.takeItem args = [.say "take_failure"] := by
  unfold takeItem
  cases ht : g.surroundings.target? args with
  | none => rfl
  | some target =>
    cases target with
    | item item place => exact absurd ht (hnone item place)
    | fixture i f => rfl

variable {document : Node} {w : World} (hload : World.load document.worldRoot = .ok w)
  (hg : g.Spoken document w)

include hload hg

theorem Spoken.take_draws {args : List String} (htext : Line.ofText text = ⟨"take", args⟩)
    (hargs : args ≠ []) {source : Place} (hsource : source ≠ .bag)
    (hmeant : ∀ item, g.surroundings.itemIn? source "1" = some item →
      g.surroundings.target? args = some (.item item source))
    (hnone : g.lying? source = some [] →
      ∀ item place, g.surroundings.target? args ≠ some (.item item place)) :
    g.Draws w text "Took " "Can not take that." source .bag := by
  constructor
  · intro row rest hl
    obtain ⟨item, hid, hone⟩ := hg.tallied.steady.sound.itemIn?_one hl
    have htold : g.filled "taken" [("item", .text item.name)] =
        .ok ("Took " ++ item.name ++ ".") :=
      filled_of_shown (fill_worded hg.english rfl rfl (by simp [String.append_assoc]))
    have hhands := hg.tallied.take_hands hload (by rw [htext]) (by rw [htext]; exact hmeant item hone)
      hsource
    exact ⟨item, hhands.first hid hl htold⟩
  · intro hl
    have hdeeds : (Line.ofText text).deeds? g = some [.say "take_failure"] := by
      rw [htext, deeds?_of_verb (v := .take) rfl hargs, Verb.deeds, takeItem_nothing (hnone hl)]
    exact Shows.declines (.cons (say_shown "take_failure" hg.english rfl) .nil) hdeeds

theorem Spoken.take_loose_draws (htext : Line.ofText text = ⟨"take", ["1"]⟩) :
    g.Draws w text "Took " "Can not take that." .ground .bag := by
  have hclause : Clause ["1"] ["1"] none := .whole (by decide +kernel)
  have htarget : g.surroundings.target? ["1"] =
      ((g.surroundings.itemIn? .ground "1").map (.item · .ground)).or
        (g.surroundings.fixtureTarget? "1") :=
    Surroundings.target?_whole hclause (by decide)
  refine hg.take_draws hload htext (by simp) (by simp) (fun item hone => ?_) fun hl item place => ?_
  · rw [htarget, hone]
    rfl
  · -- A fixture may be meant, but no item.
    rw [htarget, itemIn?_empty hl]
    simp [Surroundings.fixtureTarget?, Option.bind_eq_some_iff]

theorem Spoken.drop_draws {area : Area} (harea : g.area? = some area)
    (htext : Line.ofText text = ⟨"drop", ["1"]⟩) :
    g.Draws w text "Dropped " "Can not drop that." .bag .ground := by
  constructor
  · intro row rest hl
    obtain ⟨item, hid, hone⟩ := hg.tallied.steady.sound.itemIn?_one hl
    have htold : g.filled "dropped" [("item", .text item.name)] =
        .ok ("Dropped " ++ item.name ++ ".") :=
      filled_of_shown (fill_worded hg.english rfl rfl (by simp [String.append_assoc]))
    have hhands := hg.tallied.drop_hands hload (by rw [htext]) (by rw [htext]; simp) harea
      (by rw [htext]; exact hone)
    exact ⟨item, hhands.first hid hl htold⟩
  · intro hl
    have hdeeds : (Line.ofText text).deeds? g = some [.say "drop_failure"] := by
      have hnone : g.surroundings.itemIn? .bag (Text.unwords ["1"]) = none := itemIn?_empty hl _
      rw [htext, deeds?_of_verb (v := .drop) rfl (by simp), Verb.deeds, dropItem, harea, hnone]
    exact Shows.declines (.cons (say_shown "drop_failure" hg.english rfl) .nil) hdeeds

theorem Spoken.take_held_draws {area : Area} (harea : g.area? = some area) {i : Nat} {f : Fixture}
    (hi : area.fixtures[i]? = some f)
    (hnames : ∀ j, j < i → ∀ f', area.fixtures[j]? = some f' →
      f'.name ≠ Text.decimal (i + 1 : Nat)) {marker : String}
    (hmarker : Text.caseFold marker = "from")
    (htext : Line.ofText text = ⟨"take", ["1", marker, Text.decimal (i + 1 : Nat)]⟩) :
    g.Draws w text "Took " "Can not take that." (.fixture i) .bag := by
  have hsource : g.surroundings.source? (Text.decimal (i + 1 : Nat)) = some (.fixture i) := by
    refine Surroundings.source?_eq_some.mpr (.fixture ?_ harea (firstMeant_number hnames hi))
    rw [Text.caseFold_decimal]
    exact (not_numeral (by decide) _).symm
  have hclause : Clause ["1", marker, Text.decimal (i + 1 : Nat)] ["1"]
      (some [Text.decimal (i + 1 : Nat)]) :=
    @Clause.split ["1"] [Text.decimal (i + 1 : Nat)] marker (by decide +kernel) hmarker
  have hwords : "" ∉ ["1", marker, Text.decimal (i + 1 : Nat)] := by
    simpa [htext] using Line.empty_not_mem_args text
  have htarget : g.surroundings.target? ["1", marker, Text.decimal (i + 1 : Nat)] =
      (g.surroundings.itemIn? (.fixture i) "1").map (.item · (.fixture i)) := by
    rw [Surroundings.target?_split hclause hwords, if_neg (by simp)]
    exact congrArg (Option.bind · _) hsource
  refine hg.take_draws hload htext (by simp) (by simp) (fun item hone => ?_) fun hl item place => ?_
  · rw [htarget, hone]
    rfl
  · rw [htarget, itemIn?_empty hl]
    simp

end

/-- What the number one clears in an area and of what is carried. A fixture is meant by its number,
if none before has that number for a name. -/
structure ClearedByNumber (w : World) (g : Game) (area : Area) : Prop where
  loose : ∀ text, Line.ofText text = ⟨"take", ["1"]⟩ →
    g.Clears w text "Took " "Can not take that." .ground .bag area.items
  bag : ∀ text, Line.ofText text = ⟨"drop", ["1"]⟩ →
    g.Clears w text "Dropped " "Can not drop that." .bag .ground g.session.bag
  held : ∀ text marker i f, area.fixtures[i]? = some f →
    (∀ j, j < i → ∀ f', area.fixtures[j]? = some f' → f'.name ≠ Text.decimal (i + 1 : Nat)) →
    Text.caseFold marker = "from" →
    Line.ofText text = ⟨"take", ["1", marker, Text.decimal (i + 1 : Nat)]⟩ →
    g.Clears w text "Took " "Can not take that." (.fixture i) .bag f.items

section

variable {document : Node} {w : World} {g : Game} {area : Area}

theorem named_like {a b : Area} (h : b.fixtures.map (·.name) = a.fixtures.map (·.name)) {j : Nat}
    {f : Fixture} (hf : b.fixtures[j]? = some f) :
    ∃ f', a.fixtures[j]? = some f' ∧ f'.name = f.name := by
  have hname := congrArg (·[j]?) h
  simp only [List.getElem?_map, hf, Option.map_some] at hname
  exact Option.map_eq_some_iff.mp hname.symm

theorem area?_repeated (harea : g.area? = some area) (text : String)
    (hverb : (Line.ofText text).verb = "take" ∨ (Line.ofText text).verb = "drop") (n : Nat) :
    ∃ later, (g.repeated text n).area? = some later ∧
      later.fixtures.map (·.name) = area.fixtures.map (·.name) := by
  have hnames := fixtureNames?_repeated (g := g) hverb n
  rw [fixtureNames?, fixtureNames?, harea, Option.map_some] at hnames
  exact Option.map_eq_some_iff.mp hnames

theorem Spoken.clearedByNumber (hload : World.load document.worldRoot = .ok w)
    (hg : g.Spoken document w) (harea : g.area? = some area) : g.ClearedByNumber w area := by
  have hlater (text : String) (n : Nat) : (g.repeated text n).Spoken document w :=
    hg.after hload _
  have hsound (text : String) (n : Nat) : (g.repeated text n).Sound :=
    (hlater text n).tallied.steady.sound
  constructor
  · intro text htext
    exact clears_of_draws (by simp) (hsound text)
      (fun n => (hlater text n).take_loose_draws hload htext) (by simp [lying?, harea])
  · intro text htext
    refine clears_of_draws (by simp) (hsound text) (fun n => ?_) rfl
    obtain ⟨later, hlaterArea, -⟩ := area?_repeated harea text (.inr (by rw [htext])) n
    exact (hlater text n).drop_draws hload hlaterArea htext
  · intro text marker i f hi hnames hmarker htext
    refine clears_of_draws (by simp) (hsound text) (fun n => ?_) (by simp [lying?, harea, hi])
    obtain ⟨later, hlaterArea, hsame⟩ := area?_repeated harea text (.inl (by rw [htext])) n
    obtain ⟨f', hi', -⟩ := named_like hsame.symm hi
    refine (hlater text n).take_held_draws hload hlaterArea hi' (fun j hj other hother => ?_)
      hmarker htext
    obtain ⟨before, hbefore, hname⟩ := named_like hsame hother
    exact hname ▸ hnames j hj before hbefore

end

/-- However a game in English has been played, the number one hands on whatever is left, one piece
with each line: what lies loose around is taken until nothing is left, the bag is emptied, and so is
a fixture that is asked for by its number. -/
theorem number_one_clears {document : Node} {w : World} {traced : Bool} {o : Outcome}
    (h : ofDocument document .english traced = .ok o) (hw : World.ofDocument document = .ok w)
    (moves : List Move) {area : Area} (harea : (o.game.after moves).area? = some area) :
    (o.game.after moves).ClearedByNumber w area :=
  have hload := (World.ofDocument_ok.mp hw).2
  ((ofDocument_spoken h hw).after hload moves).clearedByNumber hload harea

theorem number_one_clears_sample : ∃ o w area, ofDocument Sample.document .english false = .ok o ∧
    World.ofDocument Sample.document = .ok w ∧
    let g := o.game.after (arrival ++ [.execute "take coin"])
    g.area? = some area ∧ area.items.count = 2 ∧ g.session.bag.count = 1 ∧
    g.Clears w "take 1" "Took " "Can not take that." .ground .bag area.items ∧
    g.Clears w "drop 1" "Dropped " "Can not drop that." .bag .ground g.session.bag ∧
    ∃ well, area.fixtures[0]? = some well ∧ well.items.count = 1 ∧
      g.Clears w "take 1 FROM 1" "Took " "Can not take that." (.fixture 0) .bag well.items := by
  have hrun : (ofDocument Sample.document .english false).toOption.any (fun o =>
      (o.game.after (arrival ++ [.execute "take coin"])).session.bag.count == 1 &&
      (o.game.after (arrival ++ [.execute "take coin"])).area?.any fun a =>
        a.items.count == 2 && a.fixtures[0]?.any (·.items.count == 1)) = true := by decide +kernel
  obtain ⟨o, ho, hrun⟩ := opens_with hrun
  simp only [Bool.and_eq_true, beq_iff_eq, Option.any_eq_true] at hrun
  obtain ⟨hbag, area, harea, hcoins, well, hwell, hletter⟩ := hrun
  obtain ⟨w, hw, -⟩ := ofDocument_ok ho
  have hclears := number_one_clears ho hw (arrival ++ [.execute "take coin"]) harea
  exact ⟨o, w, area, ho, hw, harea, hcoins, hbag, hclears.loose _ (by decide +kernel),
    hclears.bag _ (by decide +kernel), well, hwell, hletter,
    hclears.held _ "FROM" 0 well hwell (fun j hj => absurd hj (Nat.not_lt_zero j))
      (by decide +kernel) (by decide +kernel)⟩

/-- The one coin of the hoard that is carried is dropped, and nothing is said of it. -/
theorem number_one_drops_in_silence : ∃ o, ofDocument (hoard Text.nines) .english false = .ok o ∧
    (o.game.after [.tick [], .execute "take coin"]).area?.isSome ∧
    (o.game.after [.tick [], .execute "take coin"]).session.bag.count = 1 ∧
    ∀ name, ¬((o.game.after [.tick [], .execute "take coin"]).execute "drop 1").Says
      ("Dropped " ++ name ++ ".") := by
  obtain ⟨o, ho, hgame, -⟩ := hoard_opens
  have hrun : ((hoardGame.after [.tick [], .execute "take coin"]).area?.isSome &&
      (hoardGame.after [.tick [], .execute "take coin"]).session.bag.count == 1 &&
      ((hoardGame.after [.tick [], .execute "take coin"]).execute
        "drop 1").outcome.seen.isEmpty) = true := by decide +kernel
  simp only [Bool.and_eq_true, beq_iff_eq, List.isEmpty_iff] at hrun
  obtain ⟨⟨harea, hbag⟩, hsilent⟩ := hrun
  rw [← hgame] at harea hbag hsilent
  refine ⟨o, ho, harea, hbag, fun name h => ?_⟩
  have hseen := h.seen
  rw [hsilent] at hseen
  cases hseen

end Game

end Fabula

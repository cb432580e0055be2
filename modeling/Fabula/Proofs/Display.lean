import Fabula.Proofs.Arrangement
import Fabula.Proofs.Carrying
import Fabula.Proofs.Faults

set_option autoImplicit false

namespace Fabula

theorem Line.ofText_take (s : String) : Line.ofText ("take " ++ s) = ⟨"take", Text.words s⟩ := by
  have hwords : Text.words ("take " ++ s) = "take" :: Text.words s :=
    Text.words_append (w := "take") (by decide) s
  have hverb : Text.lowerCase "take" = "take" := by decide +kernel
  simp only [ofText, hwords, hverb]

theorem words_from (i k : Nat) : Text.words (Text.decimal i ++ " from " ++ Text.decimal k) =
    [Text.decimal i, "from", Text.decimal k] := by
  have htext : Text.decimal i ++ " from " ++ Text.decimal k =
      Text.decimal i ++ " " ++ ("from" ++ " " ++ Text.decimal k) := by
    simp [String.ext_iff]
  rw [htext, Text.words_append (Text.isWord_decimal i), Text.words_append (by decide),
    Text.words_single (Text.isWord_decimal k)]

theorem not_numeral {s : String} (h : s.toList.any (!·.isDigit) = true) (n : Nat) :
    s ≠ Text.decimal n := by
  rintro rfl
  obtain ⟨c, hc, hdigit⟩ := List.any_eq_true.mp h
  simp [Text.decimal_digits hc] at hdigit

theorem numeral_not_from (n : Nat) : Text.caseFold (Text.decimal n) ≠ "from" := by
  rw [Text.caseFold_decimal]
  exact (not_numeral (by decide) n).symm

/-- A number means what stands in that place, if it is not the name of something before. -/
theorem firstMeant_number {α : Type} {things : Nat → Option α} {name : α → String} {i : Nat} {x : α}
    (hnames : ∀ j, j < i → ∀ y, things j = some y → name y ≠ Text.decimal (i + 1 : Nat))
    (hx : things i = some x) : FirstMeant (Text.decimal (i + 1 : Nat)) 1 things name i x := by
  refine ⟨hx, .inl (by rw [Nat.add_comm]), fun j hj y hy hmeant => ?_⟩
  rcases hmeant with hnumber | hname
  · have := Text.decimal_inj hnumber
    omega
  · rw [Text.caseFold_decimal] at hname
    exact hnames j hj y hy (Text.caseFold_eq_decimal.mp hname.symm)

/-- A world in which no item and no fixture has a numeral for a name. -/
structure World.Unnumbered (w : World) : Prop where
  items : ∀ id item, w.item? id = some item → ∀ k : Nat, item.name ≠ Text.decimal k
  fixtures : ∀ id a, w.area? id = some a → ∀ f ∈ a.fixtures, ∀ k : Nat, f.name ≠ Text.decimal k

/-- A world whose items can be told apart and spelt in a line: their names differ in more than
case, and are words with single spaces between them, none of which reads as `from`. -/
structure World.Spelt (w : World) : Prop where
  apart : ∀ id item, w.item? id = some item → ∀ id' item', w.item? id' = some item' →
    Text.caseFold item.name = Text.caseFold item'.name → id = id'
  words : ∀ id item, w.item? id = some item → ∃ ws, item.name = Text.unwords ws ∧
    ∀ word ∈ ws, Text.isWord word = true ∧ Text.caseFold word ≠ "from"

theorem World.SameOutline.unnumbered {w v : World} (h : w.SameOutline v) (hw : w.Unnumbered) :
    v.Unnumbered := by
  refine ⟨fun id item hitem => hw.items id item (by rw [item?, ← h.items]; exact hitem),
    fun id a ha f hf => ?_⟩
  obtain ⟨b, hb, houtline⟩ := h.area? ha
  have hfixtures : a.fixtures.map Fixture.emptied = b.fixtures.map Fixture.emptied :=
    congrArg Area.fixtures houtline
  obtain ⟨f', hf', hsame⟩ := List.mem_map.mp (hfixtures ▸ List.mem_map_of_mem hf)
  have hname : f'.name = f.name :=
    (congrArg Fixture.name hsame : f'.emptied.name = f.emptied.name)
  exact hname ▸ hw.fixtures id b hb f' hf'

theorem World.SameOutline.spelt {w v : World} (h : w.SameOutline v) (hw : w.Spelt) : v.Spelt := by
  have hitems : v.item? = w.item? := by
    funext id
    rw [item?, item?, h.items]
  constructor <;> rw [hitems]
  · exact hw.apart
  · exact hw.words

theorem World.named_of_ok {document : Node} {w : World} (h : World.ofDocument document = .ok w)
    {id : String} {item : Item} (hitem : w.item? id = some item) : item.name ≠ "" := by
  obtain ⟨hchecked, hload⟩ := World.ofDocument_ok.mp h
  obtain ⟨n, hn, -, rfl⟩ := (World.item?_eq_some hchecked hload).mp hitem
  have hmem := List.mem_filter.mp hn
  obtain ⟨name, hname⟩ := Option.isSome_iff_exists.mp (hchecked.items n hmem.1 hmem.2)
  obtain ⟨hattr, hfilled⟩ := Option.filter_eq_some_iff.mp hname
  have hitem : n.item.name = name := by simp [Node.item, Node.attr, hattr]
  rw [hitem]
  simpa using hfilled

structure Answer.Alike (a b : Answer) : Prop where
  understood : a.understood = b.understood
  game : a.outcome.game = b.outcome.game
  seen : a.outcome.seen = b.outcome.seen
  fault : a.outcome.fault = b.outcome.fault

namespace Game

def looseLine (g : Game) (i : Nat) (row : String × Int) : String :=
  "You see " ++ articleFor row.2 ++ " " ++ g.world.itemName row.1 ++ " [" ++
    Text.decimal (i + 1 : Nat) ++ "] laying around."

def fixtureLine (i : Nat) (f : Fixture) : String :=
  "You notice a " ++ f.name ++ " [" ++ Text.decimal (i + 1 : Nat) ++ "]."

def exitLine (e : Exit) : String := "There is a " ++ e.kind ++ " [" ++ e.direction ++ "]."

def entryLine (g : Game) (i : Nat) (row : String × Int) : String :=
  articleFor row.2 ++ " " ++ g.world.itemName row.1 ++ " [" ++ Text.decimal (i + 1 : Nat) ++ "]"

def lookLines (g : Game) (area : Area) : List String :=
  area.description :: area.fixtures.mapIdx fixtureLine ++ area.exits.map exitLine ++
    area.items.mapIdx g.looseLine

def examineLines (g : Game) (f : Fixture) : List String :=
  (if f.description = "" then [] else [f.description]) ++
    if f.items = [] then ["The " ++ f.name ++ " is empty."]
    else ("Inside the " ++ f.name ++ " you see:") :: f.items.mapIdx g.entryLine

section

variable {g : Game} (henglish : g.catalogue = .english)

include henglish

theorem fixtureLine_shown (i : Nat) (f : Fixture) :
    (Deed.fill "look_prop" [("prop", .text f.name), ("index", .place (i + 1))]).perform g =
      g.display (fixtureLine i f) := by
  rw [fill_shown henglish rfl rfl]
  simp [fixtureLine, List.lookup_cons, String.append_assoc]

theorem exitLine_shown (e : Exit) : (Deed.fill "look_connection"
    [("type", .text e.kind), ("direction", .text e.direction)]).perform g =
      g.display (exitLine e) := by
  rw [fill_shown henglish rfl rfl]
  simp [exitLine, List.lookup_cons, String.append_assoc]

theorem look_shows {area : Area} (harea : g.area? = some area) :
    g.Shows g.look (g.lookLines area) := by
  have hloose : ∀ i (row : String × Int), (Deed.fill "look_item" [("article", .article row.2),
      ("item", g.itemName row.1), ("index", .place (i + 1))]).perform g =
        g.display (g.looseLine i row) := by
    intro i row
    rw [fill_shown henglish rfl rfl]
    simp [looseLine, List.lookup_cons, itemName, String.append_assoc]
  have hlook : g.look = .tell area.description ::
      (area.fixtures.mapIdx fun i f =>
        .fill "look_prop" [("prop", .text f.name), ("index", .place (i + 1))]) ++
      (area.exits.map fun e =>
        .fill "look_connection" [("type", .text e.kind), ("direction", .text e.direction)]) ++
      g.listing "look_item" area.items := by
    rw [look, harea]
  rw [hlook]
  exact .append (.append (.cons rfl (.mapIdx area.fixtures (fixtureLine_shown henglish)))
    (.map area.exits (exitLine_shown henglish))) (.mapIdx area.items hloose)

theorem examine_shows {args : List String} {p : Nat} {f : Fixture}
    (ht : g.surroundings.target? args = some (.fixture p f)) :
    g.Shows (g.examine args) (g.examineLines f) := by
  have hentry : ∀ i (row : String × Int), (Deed.fill "prop_entry" [("article", .article row.2),
      ("item", g.itemName row.1), ("index", .place (i + 1))]).perform g =
        g.display (g.entryLine i row) := by
    intro i row
    rw [fill_shown henglish rfl rfl]
    simp [entryLine, List.lookup_cons, itemName, String.append_assoc]
  have hempty : (Deed.fill "prop_empty" [("prop", .text f.name)]).perform g =
      g.display ("The " ++ f.name ++ " is empty.") := by
    rw [fill_shown henglish rfl rfl]
    simp [String.append_assoc]
  have hcontents : (Deed.fill "prop_contents" [("prop", .text f.name)]).perform g =
      g.display ("Inside the " ++ f.name ++ " you see:") := by
    rw [fill_shown henglish rfl rfl]
    simp [String.append_assoc]
  simp only [examine, ht, examineLines]
  refine .append ?_ ?_
  · split
    · exact .nil
    · exact .cons rfl .nil
  · split
    · exact .cons hempty .nil
    · exact .cons hcontents (.mapIdx f.items hentry)

end

section

variable {g : Game}

theorem itemAt?_eq_some {h : Holdings} {j : Nat} {item : Item}
    (hitem : g.surroundings.itemAt? h j = some item) :
    ∃ id n, h[j]? = some (id, n) ∧ g.world.item? id = some item := by
  obtain ⟨⟨id, n⟩, hrow, hget⟩ := Option.bind_eq_some_iff.mp hitem
  exact ⟨id, n, hrow, hget⟩

variable (hg : g.Sound)

include hg

theorem Sound.listed_item {place : Place} {h : Holdings} (hl : g.lying? place = some h) {i : Nat}
    {id : String} {n : Int} (hi : h[i]? = some (id, n)) : ∃ item, g.world.item? id = some item ∧
      item.id = id ∧ g.surroundings.itemAt? h i = some item := by
  have hknown : id ∈ g.world.items.keys :=
    (hg.lying hl).known id (List.mem_map.mpr ⟨(id, n), List.mem_of_getElem? hi, rfl⟩)
  obtain ⟨item, hitem⟩ := Option.isSome_iff_exists.mp (Table.get?_isSome.mpr hknown)
  have hid : item.id = id := hg.world.itemIds _ (Table.mem_of_get? hitem)
  have hat : g.surroundings.itemAt? h i = g.world.items.get? id := by
    rw [Surroundings.itemAt?, hi]
    rfl
  exact ⟨item, hitem, hid, hat.trans hitem⟩

/-- Where no name is a numeral, a number means the item that is listed with it. -/
theorem Sound.numbered_item (hnames : g.world.Unnumbered) {place : Place} {h : Holdings}
    (hl : g.lying? place = some h) {i : Nat} {id : String} {n : Int} (hi : h[i]? = some (id, n)) :
    ∃ item, g.world.item? id = some item ∧ item.id = id ∧
      FirstMeant (Text.decimal (i + 1 : Nat)) 1 (g.surroundings.itemAt? h) Item.name i item := by
  obtain ⟨item, hitem, hid, hat⟩ := hg.listed_item hl hi
  refine ⟨item, hitem, hid, firstMeant_number (fun j _ y hy => ?_) hat⟩
  obtain ⟨id', -, -, hy'⟩ := itemAt?_eq_some hy
  exact hnames.items id' y hy' _

variable {area : Area} (harea : g.area? = some area)

include harea

theorem Sound.number_target (hnames : g.world.Unnumbered) {i : Nat} {id : String} {n : Int}
    (hi : area.items[i]? = some (id, n)) : ∃ item, g.world.item? id = some item ∧ item.id = id ∧
      g.surroundings.target? [Text.decimal (i + 1 : Nat)] = some (.item item .ground) := by
  have hground : g.lying? .ground = some area.items := by simp [lying?, harea]
  obtain ⟨item, hitem, hid, hmeant⟩ := hg.numbered_item hnames hground hi
  have hclause : Clause [Text.decimal (i + 1 : Nat)] [Text.decimal (i + 1 : Nat)] none :=
    .whole (by simpa using numeral_not_from (i + 1))
  have hrefers : g.surroundings.Refers [Text.decimal (i + 1 : Nat)] (.item item .ground) :=
    .loose hclause (List.cons_ne_nil _ _) harea hmeant
  exact ⟨item, hitem, hid, hrefers.target? (by simpa using (Text.decimal_ne_empty (i + 1)).symm)⟩

theorem Sound.number_from_target (hnames : g.world.Unnumbered) {p i : Nat} {f : Fixture}
    (hp : area.fixtures[p]? = some f) {id : String} {n : Int} (hi : f.items[i]? = some (id, n)) :
    ∃ item, item.id = id ∧ g.surroundings.target? [Text.decimal (i + 1 : Nat), "from",
      Text.decimal (p + 1 : Nat)] = some (.item item (.fixture p)) := by
  have hheld : g.lying? (.fixture p) = some f.items := by simp [lying?, harea, hp]
  obtain ⟨item, -, hid, hmeant⟩ := hg.numbered_item hnames hheld hi
  have hholdings : f.items = g.surroundings.holdings (.fixture p) := by
    rw [surroundings_holdings, hheld]
    rfl
  rw [hholdings] at hmeant
  obtain ⟨place, -, hplace⟩ := Option.bind_eq_some_iff.mp harea
  have hsource : g.surroundings.IsSource (Text.decimal (p + 1 : Nat)) (.fixture p) := by
    refine .fixture ?_ harea (firstMeant_number (fun j _ y hy => ?_) hp)
    · rw [Text.caseFold_decimal]
      exact (not_numeral (by decide) _).symm
    · exact hnames.fixtures place area hplace y (List.mem_of_getElem? hy) _
  have hclause : Clause [Text.decimal (i + 1 : Nat), "from", Text.decimal (p + 1 : Nat)]
      [Text.decimal (i + 1 : Nat)] (some [Text.decimal (p + 1 : Nat)]) :=
    @Clause.split [Text.decimal (i + 1 : Nat)] [Text.decimal (p + 1 : Nat)] "from"
      (by simpa using numeral_not_from (i + 1)) (by decide +kernel)
  have hrefers : g.surroundings.Refers [Text.decimal (i + 1 : Nat), "from",
      Text.decimal (p + 1 : Nat)] (.item item (.fixture p)) :=
    .taken hclause (List.cons_ne_nil _ _) (List.cons_ne_nil _ _) hsource hmeant
  refine ⟨item, hid, hrefers.target? ?_⟩
  simpa [eq_comm (a := "")] using
    ⟨Text.decimal_ne_empty (i + 1), Text.decimal_ne_empty (p + 1)⟩

theorem Sound.name_target (hnames : g.world.Unnumbered) (hspelt : g.world.Spelt) {i : Nat}
    {id : String} {n : Int} (hi : area.items[i]? = some (id, n)) {item : Item}
    (hitem : g.world.item? id = some item) (hname : item.name ≠ "") :
    g.surroundings.target? (Text.words item.name) = some (.item item .ground) := by
  have hground : g.lying? .ground = some area.items := by simp [lying?, harea]
  have honce := (hg.lying hground).toListed.once
  obtain ⟨ws, hunwords, hwords⟩ := hspelt.words id item hitem
  have hread : Text.words item.name = ws := by
    rw [hunwords, Text.words_unwords fun w hw => (hwords w hw).1]
  obtain ⟨found, hfound, -, hat⟩ := hg.listed_item hground hi
  obtain rfl := Option.some.inj (hfound.symm.trans hitem)
  have hmeant : FirstMeant (Text.unwords ws) 1 (g.surroundings.itemAt? area.items) Item.name i
      found := by
    refine ⟨hat, .inr (by rw [hunwords]), fun j hj y hy hmeant => ?_⟩
    obtain ⟨id', n', hj', hy'⟩ := itemAt?_eq_some hy
    rw [← hunwords] at hmeant
    rcases hmeant with hnumber | hfold
    · exact hnames.items id found hitem _ hnumber
    · -- The same name: then it is the same item, but it is listed only once.
      obtain rfl := hspelt.apart id found hitem id' y hy' hfold
      have hkey : ∀ {k : Nat} {m : Int}, area.items[k]? = some (id, m) →
          (Table.keys area.items)[k]? = some id := by
        intro k m hk
        rw [Table.keys, List.getElem?_map, hk]
        rfl
      have hlength := (List.getElem?_eq_some_iff.mp (hkey hj')).1
      have hsame := (List.getElem?_inj hlength honce).mp ((hkey hj').trans (hkey hi).symm)
      omega
  have hwordsNe : "" ∉ ws := fun hmem => by
    have hempty := (hwords "" hmem).1
    cases hempty
  have hne : ws ≠ [] := by
    rintro rfl
    exact hname hunwords
  rw [hread]
  exact Surroundings.Refers.target? (.loose (.whole fun w hw => (hwords w hw).2) hne harea hmeant)
    hwordsNe

end

/-- What is displayed of an area is what is taken: the lines that are shown, and what a number in
them stands for when it is asked for. -/
structure NumbersMeant (g : Game) (area : Area) : Prop where
  look : ∀ text, (Line.ofText text).verb = "look" →
    (g.execute text).outcome.seen = (g.lookLines area).map .shown
  loose : ∀ i id n, area.items[i]? = some (id, n) → g.Carried id .ground .bag
    (g.execute ("take " ++ Text.decimal (i + 1 : Nat))).outcome.game
  examine : ∀ text p f, (Line.ofText text).verb = "examine" →
    g.surroundings.target? (Line.ofText text).args = some (.fixture p f) →
    area.fixtures[p]? = some f ∧ (g.execute text).outcome.seen = (g.examineLines f).map .shown
  held : ∀ p f i id n, area.fixtures[p]? = some f → f.items[i]? = some (id, n) →
    g.Carried id (.fixture p) .bag (g.execute ("take " ++ Text.decimal (i + 1 : Nat) ++ " from " ++
      Text.decimal (p + 1 : Nat))).outcome.game

theorem Sound.numbersMeant {g : Game} (hg : g.Sound) (henglish : g.catalogue = .english)
    (hnames : g.world.Unnumbered) {area : Area} (harea : g.area? = some area) :
    g.NumbersMeant area := by
  constructor
  · intro text hverb
    have hdeeds : (Line.ofText text).deeds? g = some g.look := by
      simp [Line.deeds?, hverb, Verb.ofWord?, Verb.needsArgument, Verb.deeds]
    exact ((look_shows henglish harea).execute hdeeds).2.2
  · intro i id n hi
    obtain ⟨item, -, rfl, ht⟩ := hg.number_target harea hnames hi
    have hline : Line.ofText ("take " ++ Text.decimal (i + 1 : Nat)) =
        ⟨"take", [Text.decimal (i + 1 : Nat)]⟩ := by
      rw [Line.ofText_take, Text.words_single (Text.isWord_decimal (i + 1))]
    exact hg.take_carried (by rw [hline]) (by rw [hline]; exact ht) (by simp)
  · intro text p f hverb ht
    have hargs : (Line.ofText text).args ≠ [] := by
      intro hempty
      rw [hempty] at ht
      cases ht
    have hdeeds := deeds?_of_verb (g := g) (v := .examine) (by rw [hverb]; rfl) hargs
    obtain ⟨here, hhere, hp⟩ :=
      Surroundings.target?_fixture (Line.empty_not_mem_args text) ht
    obtain rfl := Option.some.inj (harea.symm.trans hhere)
    exact ⟨hp, ((examine_shows henglish ht).execute hdeeds).2.2⟩
  · intro p f i id n hp hi
    obtain ⟨item, rfl, ht⟩ := hg.number_from_target harea hnames hp hi
    have hline : Line.ofText ("take " ++ Text.decimal (i + 1 : Nat) ++ " from " ++
        Text.decimal (p + 1 : Nat)) =
        ⟨"take", [Text.decimal (i + 1 : Nat), "from", Text.decimal (p + 1 : Nat)]⟩ := by
      have htext : "take " ++ Text.decimal (i + 1 : Nat) ++ " from " ++ Text.decimal (p + 1 : Nat) =
          "take " ++ (Text.decimal (i + 1 : Nat) ++ " from " ++ Text.decimal (p + 1 : Nat)) := by
        simp [String.append_assoc]
      rw [htext, Line.ofText_take, words_from]
    exact hg.take_carried (by rw [hline]) (by rw [hline]; exact ht) (by simp)

theorem take_alike {g : Game} {text other : String} (hverb : (Line.ofText text).verb = "take")
    (hother : (Line.ofText other).verb = "take") {t : Target}
    (ht : g.surroundings.target? (Line.ofText text).args = some t)
    (ht' : g.surroundings.target? (Line.ofText other).args = some t) :
    (g.execute text).Alike (g.execute other) := by
  have hargs : ∀ {args : List String}, g.surroundings.target? args = some t → args ≠ [] := by
    rintro args h rfl
    cases h
  have hsame : g.takeItem (Line.ofText text).args = g.takeItem (Line.ofText other).args := by
    rw [takeItem, takeItem, ht, ht']
  have hdeeds := deeds?_of_verb (g := g) (v := .take) (by rw [hverb]; rfl) (hargs ht)
  have hdeeds' := deeds?_of_verb (g := g) (v := .take) (by rw [hother]; rfl) (hargs ht')
  rw [Verb.deeds] at hdeeds hdeeds'
  rw [hsame] at hdeeds
  exact {
    understood := by rw [execute_eq hdeeds, execute_eq hdeeds']
    game := by rw [execute_game hdeeds, execute_game hdeeds']
    seen := by rw [execute_seen hdeeds, execute_seen hdeeds']
    fault := by rw [execute_fault hdeeds, execute_fault hdeeds'] }

variable {document : Node} {w : World} {traced : Bool} {o : Outcome}

/-- In a world in which nothing has a numeral for a name, what is displayed with a number is what is
taken by that number, however the game has been played; and if names can be told apart and spelt,
it is taken by its name just as well. -/
theorem displayed_is_taken (h : ofDocument document .english traced = .ok o)
    (hw : World.ofDocument document = .ok w) (hnames : w.Unnumbered) (moves : List Move)
    {area : Area} (harea : (o.game.after moves).area? = some area) :
    (o.game.after moves).NumbersMeant area ∧
    (w.Spelt → ∀ i id n, area.items[i]? = some (id, n) →
      ((o.game.after moves).execute ("take " ++ (o.game.after moves).world.itemName id)).Alike
        ((o.game.after moves).execute ("take " ++ Text.decimal (i + 1 : Nat)))) := by
  have hg := (ofDocument_spoken h hw).after (World.ofDocument_ok.mp hw).2 moves
  have houtline := after_outline h hw moves
  have hsound := hg.tallied.steady.sound
  have hnumbered := houtline.unnumbered hnames
  refine ⟨hsound.numbersMeant hg.english hnumbered harea, fun hspelt i id n hi => ?_⟩
  obtain ⟨item, hitem, -, hnumber⟩ := hsound.number_target harea hnumbered hi
  have hnamed : item.name ≠ "" := by
    have hloaded : w.item? id = some item := by
      rw [World.item?, ← houtline.items]
      exact hitem
    exact World.named_of_ok hw hloaded
  have hname := hsound.name_target harea hnumbered (houtline.spelt hspelt) hi hitem hnamed
  have hshown : (o.game.after moves).world.itemName id = item.name := by
    rw [World.itemName, hitem]
  rw [hshown]
  refine take_alike (t := .item item .ground) ?_ ?_ ?_ ?_ <;> rw [Line.ofText_take]
  · exact hname
  · rw [Text.words_single (Text.isWord_decimal (i + 1))]
    exact hnumber

theorem displayed_is_taken_sample : ∃ o, ofDocument Sample.document .english false = .ok o ∧
    (o.game.after arrival).Carried "letter" (.fixture 0) .bag
      ((o.game.after arrival).execute "take 1 from 1").outcome.game ∧
    (o.game.after arrival).Carried "coin" .ground .bag
      ((o.game.after arrival).execute "take 1").outcome.game ∧
    ((o.game.after arrival).execute "take Coin").Alike
      ((o.game.after arrival).execute "take 1") := by
  have hworld : (World.ofDocument Sample.document).toOption.any (fun w =>
      w.items.all (fun row => row.2.name.toList.any (!·.isDigit) && Text.isWord row.2.name &&
        Text.caseFold row.2.name != "from" && w.items.all fun other =>
          Text.caseFold row.2.name != Text.caseFold other.2.name || row.1 == other.1) &&
      w.areas.all fun row => row.2.fixtures.all fun f => f.name.toList.any (!·.isDigit)) = true := by
    decide +kernel
  obtain ⟨w, hw, hnames⟩ := ok_of_any hworld
  simp only [Bool.and_eq_true, Bool.or_eq_true, bne_iff_ne, beq_iff_eq, List.all_eq_true] at hnames
  obtain ⟨hitems, hareas⟩ := hnames
  have hunnumbered : w.Unnumbered :=
    ⟨fun id item hitem => not_numeral (hitems _ (Table.mem_of_get? hitem)).1.1.1,
      fun id a ha f hf => not_numeral (hareas _ (Table.mem_of_get? ha) f hf)⟩
  have hspelt : w.Spelt := by
    refine ⟨fun id item hitem id' item' hitem' hsame => ?_, fun id item hitem =>
      ⟨[item.name], by simp [Text.unwords], ?_⟩⟩
    · have hapart := (hitems _ (Table.mem_of_get? hitem)).2 _ (Table.mem_of_get? hitem')
      exact hapart.resolve_left fun hother => hother hsame
    · have hword := (hitems _ (Table.mem_of_get? hitem)).1
      simpa using ⟨hword.1.2, hword.2⟩
  have hrun : (ofDocument Sample.document .english false).toOption.any (fun o =>
      (o.game.after arrival).world.itemName "coin" == "Coin" &&
      (o.game.after arrival).area?.any fun a =>
        a.items == [("coin", 3)] && a.fixtures.map (·.items) == [[("letter", 1)]]) = true := by
    decide +kernel
  obtain ⟨o, ho, hhere⟩ := opens_with hrun
  rw [Bool.and_eq_true, beq_iff_eq] at hhere
  obtain ⟨hcoin, hyard⟩ := hhere
  obtain ⟨yard, harea, hplaces⟩ := (Option.any_eq_true ..).mp hyard
  simp only [Bool.and_eq_true, beq_iff_eq] at hplaces
  obtain ⟨hloose, hfixtures⟩ := hplaces
  obtain ⟨well, hwell⟩ := List.length_eq_one_iff.mp (by simpa using congrArg List.length hfixtures)
  have hletter : well.items = [("letter", 1)] := by simpa [hwell] using hfixtures
  obtain ⟨hmeant, hnamed⟩ := displayed_is_taken ho hw hunnumbered arrival harea
  have hcoins : yard.items[0]? = some ("coin", 3) := by
    rw [hloose]
    rfl
  refine ⟨o, ho, hmeant.held 0 well 0 "letter" 1 (by rw [hwell]; rfl) (by rw [hletter]; rfl),
    hmeant.loose 0 "coin" 3 hcoins, ?_⟩
  have hsame := hnamed hspelt 0 "coin" 3 hcoins
  rw [hcoin] at hsame
  exact hsame

end Game

end Fabula

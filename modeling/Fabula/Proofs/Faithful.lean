import Mathlib.Data.List.Forall2
import Fabula.Proofs.Arrangement
import Fabula.Proofs.Rendition
import Fabula.Proofs.WellFormed

/-!
Worlds as their documents write them. What a node writes is said without reading it step by step:
each item of a listing once, with all its mentions counted; one exit, fixture or cue for each child
that writes one; one row for each child with a tag. Every world that is loaded is written so.
-/

set_option autoImplicit false

namespace Fabula

theorem eraseDups_concat {α : Type} [DecidableEq α] (l : List α) (x : α) :
    (l ++ [x]).eraseDups = if x ∈ l then l.eraseDups else l.eraseDups ++ [x] := by
  rw [List.eraseDups_append]
  by_cases hx : x ∈ l
  · have hnone : [x].removeAll l = [] := by simp [List.removeAll, hx]
    simp [hnone, hx]
  · have hone : [x].removeAll l = [x] := by simp [List.removeAll, hx]
    simp [hone, hx, List.eraseDups_cons]

theorem forall₂_iff_map {α β : Type} {writes : α → β → Prop} {f : α → β} {l : List α}
    (h : ∀ x ∈ l, ∀ y, writes x y ↔ f x = y) {read : List β} :
    List.Forall₂ writes l read ↔ l.map f = read := by
  induction l generalizing read with
  | nil => simp [eq_comm]
  | cons x l ih =>
    rw [List.forall_mem_cons] at h
    simp [List.forall₂_cons_left_iff, h.1, ih h.2, eq_comm]

namespace Node

/-- How many pieces a mention writes: one, unless an amount is filled in under either name. -/
def count? (n : Node) : Option Int :=
  match (n.filled? "ammount").or (n.filled? "amount") with
  | none => some 1
  | some raw => Text.integer? raw

/-- A listing that mentions of items write: each item once, in the order in which they are first
mentioned, with what all its mentions count. -/
structure Lists (mentions : List Node) (h : Holdings) : Prop where
  order : Table.keys h = (mentions.map (·.attr "item")).eraseDups
  once : (Table.keys h).Nodup
  counted : ∀ m ∈ mentions, ∃ k, m.count? = some k ∧ 1 ≤ k
  amounts : ∀ item, h.amount item =
    total (fun m => m.count?.getD 0) (mentions.filter (·.attr "item" == item))

/-- An exit with all that its node writes; it is open if it is a passage. An empty key is none. -/
structure WritesExit (n : Node) (e : Exit) : Prop where
  target : n.attr? "to" = some e.target
  direction : n.attr? "dir" = some e.direction
  kind : n.attr? "type" = some e.kind
  key : ∀ key, e.key = some key ↔ n.attr? "key" = some key ∧ key ≠ ""
  isOpen : e.isOpen = true ↔ n.attr? "type" = some "passage"

structure WritesFixture (n : Node) (f : Fixture) : Prop where
  name : n.attr? "name" = some f.name
  description : f.description = n.attr "desc"
  items : Lists n.mentionsIn f.items

structure WritesArea (n : Node) (a : Area) : Prop where
  id : n.attr? "id" = some a.id
  name : a.name = (n.filled? "name").getD "???"
  description : a.description = n.attr "desc"
  items : Lists n.mentionsIn a.items
  exits : List.Forall₂ WritesExit (n.children.filter (·.name == "connects")) a.exits
  fixtures : List.Forall₂ WritesFixture (n.children.filter (·.name == "prop")) a.fixtures

structure WritesItem (n : Node) (item : Item) : Prop where
  id : n.attr? "id" = some item.id
  name : n.attr? "name" = some item.name
  description : item.description = n.attr "desc"

/-- A node with a tag that is known to write a cue. -/
def recognised (n : Node) : Bool := ["text", "enter", "continue", "select"].any n.tagged

mutual

inductive WritesCue : Node → Cue → Prop where
  | narrate {n : Node} : n.tagged "text" = true → WritesCue n (.narrate n.value)
  | enter {n : Node} : n.tagged "enter" = true → WritesCue n (.enter (n.attr "area"))
  | pass {n : Node} : n.tagged "continue" = true → WritesCue n .pass
  | choose {n : Node} {options : List (String × Cue)} : n.tagged "select" = true →
      List.Forall₂ WritesOption (n.children.filter (·.tagged "option")) options →
      WritesCue n (.choose n.caption options)

/-- An option leads to the first cue that is written below it, or just passes. -/
inductive WritesOption : Node → String × Cue → Prop where
  | leads {n first : Node} {later : List Node} {cue : Cue} :
      n.children.filter recognised = first :: later → WritesCue first cue →
      WritesOption n (n.caption, cue)
  | passes {n : Node} : n.children.filter recognised = [] → WritesOption n (n.caption, .pass)

end

structure WritesScene (n : Node) (scene : Scene) : Prop where
  id : n.attr? "id" = some scene.id
  cues : List.Forall₂ WritesCue (n.children.filter recognised) scene.cues

/-- A table with one row for each child with a tag, under the id that the child writes. Each row is
found by its id, and nothing else is. -/
structure Registers {α : Type} (root : Node) (tag : String) (writes : Node → α → Prop)
    (t : Table String α) : Prop where
  rows : List.Forall₂ (fun n row => n.attr? "id" = some row.1 ∧ writes n row.2)
    (root.children.filter (·.tagged tag)) t
  found : ∀ id a, t.get? id = some a ↔ (id, a) ∈ t

theorem count?_of_integer {n : Node} {raw : String}
    (h : (n.filled? "ammount").or (n.filled? "amount") = some raw) :
    n.count? = Text.integer? raw := by
  rw [count?, h]

theorem integer_eq_ok {n : Node} {key : String} {byDefault k : Int} :
    n.integer key byDefault = .ok k ↔
      (n.filled? key = none ∧ k = byDefault) ∨
      ∃ raw, n.filled? key = some raw ∧ Text.integer? raw = some k := by
  cases hraw : n.filled? key with
  | none => simp [integer, hraw, pure, Except.pure, eq_comm]
  | some raw =>
    rw [integer_of_filled hraw]
    cases hk : Text.integer? raw <;> simp [hk]

/-- What is read of a mention is what it writes, with the first name before the second. -/
theorem count?_of_pieces {n : Node} {k : Int} (h : n.pieces = .ok k) : n.count? = some k := by
  obtain ⟨second, hsecond, hfirst⟩ := bind_ok h
  rcases integer_eq_ok.mp hfirst with ⟨hnone, rfl⟩ | ⟨raw, hraw, hk⟩
  · rcases integer_eq_ok.mp hsecond with ⟨hnone', rfl⟩ | ⟨raw, hraw, hk⟩
    · simp [count?, hnone, hnone']
    · rw [count?_of_integer (by rw [hnone, hraw]; rfl), hk]
  · rw [count?_of_integer (by rw [hraw]; rfl), hk]

theorem Lists.empty : Lists [] [] := ⟨rfl, List.nodup_nil, by simp, fun _ => rfl⟩

/-- One more mention adds what it counts to its item, which is listed last if it is new. -/
theorem Lists.add {mentions : List Node} {h : Holdings} (hl : Lists mentions h) {n : Node} {k : Int}
    (hk : n.count? = some k) (hpos : 1 ≤ k) :
    Lists (mentions ++ [n]) (h.add (n.attr "item") k) := by
  have hadd : h.add (n.attr "item") k = Table.put (n.attr "item") (h.amount (n.attr "item") + k) h :=
    if_neg (by omega)
  constructor
  · have hlisted : n.attr "item" ∈ Table.keys h ↔ n.attr "item" ∈ mentions.map (·.attr "item") := by
      rw [hl.order, List.mem_eraseDups]
    rw [hadd, Table.keys_put, List.map_append, List.map_singleton, eraseDups_concat, hl.order]
    simp only [List.mem_eraseDups]
  · rw [hadd]
    exact Table.nodup_keys_put hl.once _ _
  · intro m hm
    rcases List.mem_append.mp hm with hm | hm
    · exact hl.counted m hm
    · exact ⟨k, by rw [List.mem_singleton.mp hm, hk], hpos⟩
  · intro item
    rw [Holdings.amount_add h _ (by omega), hl.amounts, List.filter_append, total_append]
    by_cases hitem : n.attr "item" = item
    · simp [hitem, total, hk]
    · simp [hitem, total]

theorem lists_of_holdings {items : List String} {nodes : List Node}
    (hm : ∀ n ∈ nodes, n.name = "contains" → Mention items n) {mentions : List Node}
    {h h' : Holdings} (hl : Lists mentions h) (hread : holdings h nodes = .ok h') :
    Lists (mentions ++ nodes.filter (·.name == "contains")) h' := by
  induction nodes generalizing mentions h with
  | nil =>
    cases hread
    simpa using hl
  | cons n nodes ih =>
    have hrest := @ih fun m hmem => hm m (List.mem_cons_of_mem _ hmem)
    by_cases hname : n.name = "contains"
    · rw [holdings, if_pos hname] at hread
      obtain ⟨k, hk, hread⟩ := bind_ok hread
      have hpos : 1 ≤ k := by
        have hpieces := pieces_reads (hm n (by simp) hname)
        rw [hk] at hpieces
        cases hpieces with
        | all _ hpos => exact hpos
      rw [List.filter_cons_of_pos (by simpa using hname), List.append_cons]
      exact hrest (hl.add (count?_of_pieces hk) hpos) hread
    · rw [holdings, if_neg hname] at hread
      rw [List.filter_cons_of_neg (by simpa using hname)]
      exact hrest hl hread

theorem lists_mentionsIn (items : List String) {n : Node} {h : Holdings}
    (hm : ∀ m ∈ n.mentionsIn, Mention items m) (hread : holdings [] n.children = .ok h) :
    Lists n.mentionsIn h := by
  have hall : ∀ m ∈ n.children, m.name = "contains" → Mention items m :=
    fun m hmem hname => hm m (List.mem_filter.mpr ⟨hmem, by simpa using hname⟩)
  exact lists_of_holdings hall Lists.empty hread

theorem attr?_of_filled {n : Node} {key : String} (h : (n.filled? key).isSome) :
    n.attr? key = some (n.attr key) := by
  obtain ⟨text, htext⟩ := Option.isSome_iff_exists.mp h
  rw [attr_of_filled? htext, (filled?_eq_some.mp htext).1]

theorem exit_written {areas items : List String} {area : Option String} {n : Node}
    (h : exitComplaints areas items area n = []) : n.WritesExit n.exit := by
  obtain ⟨⟨target, htarget, -⟩, hdirection, hkind, -⟩ := exitComplaints_eq_nil.mp h
  exact {
    target := attr?_of_filled (by rw [htarget]; rfl)
    direction := attr?_of_filled hdirection
    kind := attr?_of_filled hkind
    key := fun key => filled?_eq_some
    isOpen := by rw [attr?_of_filled hkind]; simp [exit, passage] }

theorem fixture_written {items : List String} {area : Option String} {n : Node}
    (h : fixtureComplaints items area n = []) {f : Fixture} (hf : n.fixture = .ok f) :
    n.WritesFixture f := by
  obtain ⟨hname, hmentions⟩ := fixtureComplaints_eq_nil.mp h
  obtain ⟨held, hheld, hf⟩ := bind_ok hf
  cases Except.ok.inj hf
  refine ⟨attr?_of_filled hname, rfl, lists_mentionsIn items (fun m hm => ?_) hheld⟩
  obtain ⟨hm, hcontains⟩ := List.mem_filter.mp hm
  exact mention_of_no_complaint (hmentions m hm (by simpa using hcontains))

theorem area_written {areas items : List String} {n : Node} (hid : (n.filled? "id").isSome)
    (h : areaComplaints areas items n = []) {a : Area} (ha : n.area = .ok a) : n.WritesArea a := by
  have hc := areaComplaints_eq_nil.mp h
  have hnamed : ∀ {m : Node} {name : String}, m ∈ n.children.filter (·.name == name) →
      m ∈ n.children ∧ m.name = name := fun hm => by
    simpa using List.mem_filter.mp hm
  obtain ⟨loose, hloose, ha⟩ := bind_ok ha
  obtain ⟨fixtures, hfixtures, ha⟩ := bind_ok ha
  cases Except.ok.inj ha
  refine ⟨attr?_of_filled hid, rfl, rfl, lists_mentionsIn items (fun m hm => ?_) hloose,
    ?_, forall₂_of_mapM (fun m hm f hf => ?_) hfixtures⟩
  · obtain ⟨hm, hname⟩ := hnamed hm
    exact mention_of_no_complaint ((hc m hm).1 hname)
  · rw [List.forall₂_map_right_iff, List.forall₂_same]
    intro m hm
    obtain ⟨hm, hname⟩ := hnamed hm
    exact exit_written ((hc m hm).2.1 hname)
  · obtain ⟨hm, hname⟩ := hnamed hm
    exact fixture_written ((hc m hm).2.2 hname) hf

theorem recognised_eq (n : Node) : n.recognised = n.cue?.isSome := by
  rw [cue?_eq]
  simp only [recognised, List.any_cons, List.any_nil, Bool.or_false]
  cases n.tagged "text" <;> cases n.tagged "enter" <;> cases n.tagged "continue" <;>
    cases n.tagged "select" <;> rfl

/-- What an option leads to is what the first child writes that writes a cue at all. -/
theorem firstCue_filter (nodes : List Node) :
    firstCue nodes = ((nodes.filter recognised).head?.bind cue?).getD .pass := by
  rw [firstCue_eq]
  induction nodes with
  | nil => rfl
  | cons n nodes ih =>
    rw [List.findSome?_cons, List.filter_cons, recognised_eq]
    cases hn : n.cue? with
    | none => simpa using ih
    | some cue => simp [hn]

theorem writesOption_iff {n : Node} {option : String × Cue}
    (h : ∀ sub ∈ n.children, ∀ cue, sub.cue? = some cue ↔ sub.WritesCue cue) :
    n.WritesOption option ↔ (n.caption, firstCue n.children) = option := by
  rw [firstCue_filter]
  cases hfilter : n.children.filter recognised with
  | nil =>
    refine ⟨fun hw => ?_, ?_⟩
    · cases hw with
      | leads hfirst => simp [hfilter] at hfirst
      | passes => rfl
    · rintro rfl
      exact .passes hfilter
  | cons first later =>
    obtain ⟨hfirst, hknown⟩ := List.mem_filter.mp (hfilter ▸ List.mem_cons_self : first ∈
      n.children.filter recognised)
    rw [recognised_eq, Option.isSome_iff_exists] at hknown
    obtain ⟨cue, hcue⟩ := hknown
    refine ⟨fun hw => ?_, ?_⟩
    · cases hw with
      | @leads _ first' later' cue' hfirst' hcue' =>
        obtain ⟨rfl, -⟩ := List.cons.inj (hfilter.symm.trans hfirst')
        simp [(h _ hfirst _).mpr hcue']
      | passes hnone => simp [hfilter] at hnone
    · rintro rfl
      simp only [List.head?_cons, Option.bind_some, hcue, Option.getD_some]
      exact .leads hfilter ((h _ hfirst _).mp hcue)

/-- A node is read as the cue that it writes, and as no other. -/
theorem cue?_eq_some (n : Node) : ∀ cue, n.cue? = some cue ↔ n.WritesCue cue := by
  induction n using inductTwo with
  | step n ih =>
    have hoptions : ∀ read, List.Forall₂ WritesOption (n.children.filter (·.tagged "option")) read ↔
        options n.children = read := by
      intro read
      rw [options_eq]
      refine forall₂_iff_map (f := fun child : Node => (child.caption, firstCue child.children))
        fun child hc option => writesOption_iff fun sub hsub => ?_
      exact (ih child (List.mem_filter.mp hc).1).2 sub hsub
    intro cue
    rw [cue?_eq]
    constructor
    · intro h
      split at h
      · next htag => cases h; exact .narrate htag
      split at h
      · next htag => cases h; exact .enter htag
      split at h
      · next htag => cases h; exact .pass htag
      split at h
      · next htag => cases h; exact .choose htag ((hoptions _).mpr rfl)
      · cases h
    · intro h
      have hother {tag other : String} (htag : n.tagged tag = true) (hne : tag ≠ other) :
          ¬n.tagged other = true := by simp [tagged_unique htag hne]
      cases h with
      | narrate htag => rw [if_pos htag]
      | enter htag => rw [if_neg (hother htag (by decide)), if_pos htag]
      | pass htag =>
        rw [if_neg (hother htag (by decide)), if_neg (hother htag (by decide)), if_pos htag]
      | choose htag hread =>
        rw [if_neg (hother htag (by decide)), if_neg (hother htag (by decide)),
          if_neg (hother htag (by decide)), if_pos htag, (hoptions _).mp hread]

/-- Cues are written by just the children with a tag that is known, in their order. -/
theorem cues_written (nodes : List Node) :
    List.Forall₂ WritesCue (nodes.filter recognised) (nodes.filterMap cue?) := by
  induction nodes with
  | nil => exact .nil
  | cons n nodes ih =>
    rw [List.filter_cons, List.filterMap_cons, recognised_eq]
    cases hn : n.cue? with
    | none => exact ih
    | some cue => exact .cons ((n.cue?_eq_some cue).mp hn) ih

theorem scene_written {n : Node} (hid : (n.filled? "id").isSome) :
    n.WritesScene (Scene.ofNode n) :=
  ⟨attr?_of_filled hid, by rw [Scene.cues_ofNode]; exact cues_written n.children⟩

theorem item_written {n : Node} (hid : (n.filled? "id").isSome) (hname : (n.filled? "name").isSome) :
    n.WritesItem n.item :=
  ⟨attr?_of_filled hid, attr?_of_filled hname, rfl⟩

theorem Checked.registers {root : Node} (h : root.Checked) {tag : String}
    (ht : tag ∈ ["entry", "area", "item"]) {α : Type} {writes : Node → α → Prop}
    {t : Table String α}
    (hrows : List.Forall₂ (fun n row => n.attr "id" = row.1 ∧ writes n row.2)
      (root.children.filter (·.tagged tag)) t) : root.Registers tag writes t := by
  obtain ⟨hfilled, -, -⟩ := idComplaints_eq_nil.mp (h.ids tag ht)
  have hkeys : t.keys = root.idsOf tag := by
    rw [← h.idsOf_eq ht]
    generalize root.children.filter (·.tagged tag) = nodes at hrows
    induction hrows with
    | nil => rfl
    | cons hrow _ ih => rw [Table.keys_cons, List.map_cons, hrow.1, ih]
  constructor
  · have hall := (List.forall₂_and_left _ _).mpr ⟨hfilled, hrows⟩
    refine hall.imp fun n row hrow => ⟨?_, hrow.2.2⟩
    rw [attr?_of_filled hrow.1, hrow.2.1]
  · intro id a
    exact Table.get?_eq_some (hkeys ▸ h.nodup_idsOf ht)

theorem Checked.registers_rows {root : Node} (h : root.Checked) {tag : String}
    (ht : tag ∈ ["entry", "area", "item"]) {α : Type} {writes : Node → α → Prop} {f : Node → α}
    (hf : ∀ n ∈ root.children.filter (·.tagged tag), writes n (f n)) :
    root.Registers tag writes (Table.ofRows
      ((root.children.filter (·.tagged tag)).map fun n => (n.attr "id", f n))) := by
  refine h.registers ht ?_
  rw [h.rows_eq ht, List.forall₂_map_right_iff, List.forall₂_same]
  exact fun n hn => ⟨rfl, hf n hn⟩

end Node

namespace World

open Node

/-- Bare areas are filled in place, each from its own node. -/
theorem fillAreas_rows {nodes : List Node} {before filled : Table String Area}
    (hids : (before.keys ++ nodes.map (·.attr "id")).Nodup)
    (h : fillAreas (before ++ nodes.map fun n => (n.attr "id", n.bareArea)) nodes = .ok filled) :
    ∃ rows, filled = before ++ rows ∧
      List.Forall₂ (fun n row => n.attr "id" = row.1 ∧ n.area = .ok row.2) nodes rows := by
  induction nodes generalizing before with
  | nil =>
    cases h
    exact ⟨[], by simp, .nil⟩
  | cons n nodes ih =>
    obtain ⟨a, ha, h⟩ := bind_ok h
    have hnew : n.attr "id" ∉ before.keys := fun hmem =>
      (List.nodup_append.mp hids).2.2 _ hmem _ (by simp) rfl
    rw [id_of_area ha, List.map_cons, Table.put_middle hnew, List.append_cons] at h
    obtain ⟨rows, hrows, hall⟩ := ih (by simpa using hids) h
    exact ⟨(n.attr "id", a) :: rows, by rw [hrows, ← List.append_cons], .cons ⟨rfl, ha⟩ hall⟩

/-- A world with nothing but what a document writes, and with all of that. -/
structure Faithful (root : Node) (w : World) : Prop where
  items : root.Registers "item" WritesItem w.items
  areas : root.Registers "area" WritesArea w.areas
  scenes : root.Registers "entry" WritesScene w.scenes

theorem faithful_of_load {root : Node} (h : root.Checked) {w : World} (hload : load root = .ok w) :
    w.Faithful root := by
  have hids : ∀ tag ∈ ["entry", "area", "item"], ∀ n ∈ root.children.filter (·.tagged tag),
      (n.filled? "id").isSome := fun tag ht => (idComplaints_eq_nil.mp (h.ids tag ht)).1
  have hnodup : ((root.children.filter (·.tagged "area")).map (·.attr "id")).Nodup := by
    rw [h.idsOf_eq (by simp)]
    exact h.nodup_idsOf (by simp)
  obtain ⟨areas, hfill, hw⟩ := bind_ok hload
  obtain rfl := Except.ok.inj hw
  rw [h.rows_eq (by simp)] at hfill
  obtain ⟨rows, rfl, hrows⟩ := @fillAreas_rows _ [] _ hnodup hfill
  constructor
  · refine h.registers_rows (by simp) fun n hn => ?_
    obtain ⟨hmem, htag⟩ := List.mem_filter.mp hn
    exact item_written (hids _ (by simp) n hn) (h.items n hmem htag)
  · refine h.registers (by simp) ?_
    have hall := (List.forall₂_and_left (R := fun (n : Node) (row : String × Area) =>
      n.attr "id" = row.1 ∧ n.area = .ok row.2) _ _).mpr ⟨fun n hn => hn, hrows⟩
    refine hall.imp fun n row hrow => ⟨hrow.2.1, ?_⟩
    obtain ⟨hmem, htag⟩ := List.mem_filter.mp hrow.1
    exact area_written (hids _ (by simp) n hrow.1) (h.areas n hmem htag) hrow.2.2
  · exact h.registers_rows (by simp) fun n hn => scene_written (hids _ (by simp) n hn)

/-- A document that can be loaded is loaded as it is written. Its items, areas and scenes are found
by their ids and no others; each place holds what its own mentions count; exits, fixtures and cues
stand as their nodes do. -/
theorem loaded_as_written {document : Node} {w : World} (h : ofDocument document = .ok w) :
    w.Faithful document.worldRoot := by
  obtain ⟨hchecked, hload⟩ := ofDocument_ok.mp h
  exact faithful_of_load hchecked hload

def scattered : Node := Sample.around "adventure" [] [
  Sample.item "rope" "Rope" "", Sample.around "area" [("id", "yard")] [
    Sample.several "coin" "2",
    Sample.mark "connects" [("to", "yard"), ("dir", "round"), ("type", "door"), ("key", "")],
    Sample.mark "contains" [("item", "rope"), ("amount", "4")],
    Sample.prop "Well" "" [Sample.one "coin", Sample.narration "", Sample.one "coin"],
    Sample.several "coin" "3",
    Sample.mark "cloud" []],
  Sample.around "entry" [("id", "1")] [Sample.mark "cloud" [], Sample.mark "continue" []],
  Sample.item "coin" "Coin" ""]

theorem loaded_as_written_scattered : ∃ w, ofDocument scattered = .ok w ∧ w.Faithful scattered ∧
    w.areas.map (fun row => (row.1, row.2.items, row.2.fixtures.map (·.items))) =
      [("yard", [("coin", 5), ("rope", 4)], [[("coin", 2)]])] := by
  have hload : (ofDocument scattered).toOption.any (fun w =>
      w.areas.map (fun row => (row.1, row.2.items, row.2.fixtures.map (·.items))) =
        [("yard", [("coin", 5), ("rope", 4)], [[("coin", 2)]])]) = true := by decide +kernel
  obtain ⟨w, hw, hareas⟩ := ok_of_any hload
  exact ⟨w, hw, loaded_as_written hw, of_decide_eq_true hareas⟩

end World

end Fabula

import Fabula.World.Loading
import Fabula.Proofs.Complaint
import Fabula.Proofs.Sound

set_option autoImplicit false

namespace Fabula

namespace Node

def mentionsIn (n : Node) : List Node := n.children.filter (·.name == "contains")

def mentionsBelow (n : Node) : List Node :=
  n.mentionsIn ++ (n.children.filter (·.name == "prop")).flatMap mentionsIn

def mentions (root : Node) : List Node :=
  (root.children.filter (·.tagged "area")).flatMap mentionsBelow

/-- What a mention calls `amount` is absent, empty, or an integer. -/
def AliasReadable (n : Node) : Prop :=
  ∀ raw, n.filled? "amount" = some raw → (Text.integer? raw).isSome

structure Mention (items : List String) (n : Node) : Prop where
  item : n.attr "item" ∈ items
  amount : ∀ raw, n.writtenAmount? = some raw → ∃ k, Text.integer? raw = some k ∧ 1 ≤ k

theorem mention_of_no_complaint {items : List String} {holder : Holder} {n : Node}
    (h : mentionComplaints items holder n = []) : Mention items n := by
  obtain ⟨⟨id, hid, hmem⟩, hamount⟩ := mentionComplaints_eq_nil.mp h
  exact ⟨by rw [attr_of_filled? hid]; exact hmem, hamount⟩

theorem integer?_empty : Text.integer? "" = none := by decide +kernel

theorem filled?_of_integer {n : Node} {key raw : String} {k : Int} (h : n.attr? key = some raw)
    (hk : Text.integer? raw = some k) : n.filled? key = some raw := by
  refine Option.filter_eq_some_iff.mpr ⟨h, ?_⟩
  rw [bne_iff_ne]
  rintro rfl
  simp [integer?_empty] at hk

theorem integer_of_filled {n : Node} {key raw : String} (h : n.filled? key = some raw)
    (byDefault : Int) : n.integer key byDefault =
      match Text.integer? raw with
      | some k => .ok k
      | none => .error (.notInteger key n.name raw) := by
  rw [integer, h]
  rfl

/-- Whatever a mention calls `amount` is read first, also where `ammount` counts. -/
theorem pieces_of_unreadable {n : Node} {raw : String} (h : n.filled? "amount" = some raw)
    (hr : Text.integer? raw = none) : n.pieces = .error (.notInteger "amount" n.name raw) := by
  simp [pieces, integer_of_filled h, hr, bind, Except.bind]

theorem pieces_of_readable {items : List String} {n : Node} (hm : Mention items n)
    (ha : n.AliasReadable) : ∃ k, n.pieces = .ok k ∧ 1 ≤ k := by
  obtain ⟨j, hj⟩ : ∃ j, n.integer "amount" 1 = .ok j := by
    cases hraw : n.filled? "amount" with
    | none => exact ⟨1, by rw [integer, hraw]; rfl⟩
    | some raw =>
      obtain ⟨j, hj⟩ := Option.isSome_iff_exists.mp (ha raw hraw)
      exact ⟨j, by rw [integer_of_filled hraw, hj]⟩
  have hp : n.pieces = n.integer "ammount" j := by simp [pieces, hj, bind, Except.bind]
  cases hfirst : n.attr? "ammount" with
  | some raw =>
    obtain ⟨k, hk, hpos⟩ := hm.amount raw (by simp [writtenAmount?, hfirst])
    exact ⟨k, by rw [hp, integer_of_filled (filled?_of_integer hfirst hk), hk], hpos⟩
  | none =>
    have hnone : n.integer "ammount" j = .ok j := by
      simp [integer, filled?, hfirst, pure, Except.pure]
    refine ⟨j, hp.trans hnone, ?_⟩
    cases hsecond : n.attr? "amount" with
    | none =>
      simp only [integer, filled?, hsecond, Option.filter_none, pure, Except.pure,
        Except.ok.injEq] at hj
      omega
    | some raw =>
      obtain ⟨k, hk, hpos⟩ := hm.amount raw (by simp [writtenAmount?, hfirst, hsecond])
      rw [integer_of_filled (filled?_of_integer hsecond hk), hk] at hj
      simp only [Except.ok.injEq] at hj
      omega

/-- What comes of reading mentions: a good result, or the flaw of one of them. -/
inductive Reads {α : Type} (mentions : List Node) (good : α → Prop) : Except Flaw α → Prop where
  | all {a : α} : (∀ n ∈ mentions, n.AliasReadable) → good a → Reads mentions good (.ok a)
  | flawed {n : Node} {raw : String} : n ∈ mentions → (n.attr? "ammount").isSome →
      n.filled? "amount" = some raw → Text.integer? raw = none →
      Reads mentions good (.error (.notInteger "amount" n.name raw))

theorem Reads.pure {α : Type} {good : α → Prop} {a : α} (h : good a) :
    Reads [] good (Except.ok a) :=
  .all (by simp) h

theorem Reads.bind {α β : Type} {first second : List Node} {good : α → Prop} {better : β → Prop}
    {r : Except Flaw α} {next : α → Except Flaw β} (h : Reads first good r)
    (hnext : ∀ a, good a → Reads second better (next a)) :
    Reads (first ++ second) better (r >>= next) := by
  cases h with
  | flawed hn hfirst hraw hbad => exact .flawed (List.mem_append_left _ hn) hfirst hraw hbad
  | @all a hread ha =>
    have hsecond := hnext a ha
    change Reads _ _ (next a)
    generalize next a = s at hsecond ⊢
    cases hsecond with
    | flawed hn hfirst hraw hbad => exact .flawed (List.mem_append_right _ hn) hfirst hraw hbad
    | all hmore hb =>
      exact .all (fun n hn => (List.mem_append.mp hn).elim (hread n) (hmore n)) hb

theorem Reads.map {α β : Type} {mentions : List Node} {good : α → Prop} {better : β → Prop}
    {r : Except Flaw α} {f : α → β} (h : Reads mentions good r)
    (hf : ∀ a, good a → better (f a)) : Reads mentions better (r >>= fun a => .ok (f a)) := by
  have hb : Reads (mentions ++ []) better (r >>= fun a => .ok (f a)) :=
    h.bind fun a ha => .pure (hf a ha)
  simpa using hb

theorem Reads.iff_readable {α : Type} {mentions : List Node} {good : α → Prop}
    {r : Except Flaw α} (h : Reads mentions good r) :
    (∃ a, r = .ok a) ↔ ∀ n ∈ mentions, n.AliasReadable := by
  cases h with
  | all hread ha => simpa using hread
  | @flawed n raw hn hfirst hraw hbad =>
    simp only [reduceCtorEq, exists_false, false_iff]
    intro hall
    simpa [hbad] using hall n hn raw hraw

theorem pieces_reads {items : List String} {n : Node} (hm : Mention items n) :
    Reads [n] (1 ≤ ·) n.pieces := by
  by_cases ha : n.AliasReadable
  · obtain ⟨k, hk, hpos⟩ := pieces_of_readable hm ha
    rw [hk]
    exact .all (by simpa using ha) hpos
  · simp only [AliasReadable, Classical.not_forall] at ha
    obtain ⟨raw, hraw, hbad⟩ := ha
    have hnone : Text.integer? raw = none := by simpa using hbad
    rw [pieces_of_unreadable hraw hnone]
    refine .flawed (by simp) ?_ hraw hnone
    cases hfirst : n.attr? "ammount" with
    | some first => rfl
    | none =>
      have hwritten : n.writtenAmount? = some raw := by
        simp [writtenAmount?, hfirst, (Option.filter_eq_some_iff.mp hraw).1]
      obtain ⟨k, hk, -⟩ := hm.amount raw hwritten
      simp [hnone] at hk

theorem holdings_reads {items : List String} {nodes : List Node}
    (hm : ∀ n ∈ nodes, n.name = "contains" → Mention items n) {h : Holdings}
    (hs : h.Stocked items) :
    Reads (nodes.filter (·.name == "contains")) (Holdings.Stocked items) (holdings h nodes) := by
  induction nodes generalizing h with
  | nil => exact .pure hs
  | cons n nodes ih =>
    have hrest := fun h => @ih (fun m hmem => hm m (List.mem_cons_of_mem _ hmem)) h
    by_cases hname : n.name = "contains"
    · have hn := hm n (by simp) hname
      rw [List.filter_cons_of_pos (by simpa using hname), holdings, if_pos hname]
      exact (pieces_reads hn).bind fun k hk => hrest _ (hs.add hn.item k)
    · rw [List.filter_cons_of_neg (by simpa using hname), holdings, if_neg hname]
      exact hrest h hs

theorem fixture_reads {items : List String} {n : Node}
    (hm : ∀ m ∈ n.mentionsIn, Mention items m) :
    Reads n.mentionsIn (fun f => f.items.Stocked items) n.fixture := by
  have hall : ∀ m ∈ n.children, m.name = "contains" → Mention items m :=
    fun m hmem hname => hm m (List.mem_filter.mpr ⟨hmem, by simpa using hname⟩)
  exact (holdings_reads hall (Holdings.Stocked.empty items)).map fun h hs => hs

theorem fixtures_read {items : List String} {nodes : List Node}
    (hm : ∀ n ∈ nodes, ∀ m ∈ n.mentionsIn, Mention items m) :
    Reads (nodes.flatMap mentionsIn) (fun fs => ∀ f ∈ fs, f.items.Stocked items)
      (nodes.mapM fixture) := by
  induction nodes with
  | nil => exact .pure (by simp)
  | cons n nodes ih =>
    have hrest := ih fun m hmem => hm m (List.mem_cons_of_mem _ hmem)
    rw [List.mapM_cons, List.flatMap_cons]
    refine (fixture_reads (hm n (by simp))).bind fun f hf => ?_
    exact hrest.map fun fs hfs => by simpa using ⟨hf, hfs⟩

theorem exit_sound {areas items : List String} {area : Option String} {n : Node}
    (h : exitComplaints areas items area n = []) : n.exit.Sound areas items := by
  obtain ⟨⟨id, hid, hmem⟩, -, -, hkey⟩ := exitComplaints_eq_nil.mp h
  exact ⟨by simpa [exit, attr_of_filled? hid] using hmem, hkey⟩

theorem area_reads {areas items : List String} {n : Node}
    (h : areaComplaints areas items n = []) :
    Reads n.mentionsBelow (fun a => a.id = n.attr "id" ∧ a.Sound areas items) n.area := by
  have hc := areaComplaints_eq_nil.mp h
  have hloose : ∀ m ∈ n.children, m.name = "contains" → Mention items m :=
    fun m hm hname => mention_of_no_complaint ((hc m hm).1 hname)
  have hfixtures : ∀ f ∈ n.children.filter (·.name == "prop"), ∀ m ∈ f.mentionsIn,
      Mention items m := by
    intro f hf m hm
    obtain ⟨hf, hprop⟩ := List.mem_filter.mp hf
    obtain ⟨hm, hname⟩ := List.mem_filter.mp hm
    have hfix := fixtureComplaints_eq_nil.mp ((hc f hf).2.2 (by simpa using hprop))
    exact mention_of_no_complaint (hfix.2 m hm (by simpa using hname))
  have hexits : ∀ e ∈ (n.children.filter (·.name == "connects")).map exit, e.Sound areas items := by
    intro e he
    obtain ⟨m, hm, rfl⟩ := List.mem_map.mp he
    obtain ⟨hm, hname⟩ := List.mem_filter.mp hm
    exact exit_sound ((hc m hm).2.1 (by simpa using hname))
  refine (holdings_reads hloose (Holdings.Stocked.empty items)).bind fun loose hl => ?_
  exact (fixtures_read hfixtures).map fun fixtures hf => ⟨rfl, hexits, hl, hf⟩

theorem exits_of_area {n : Node} {a : Area} (h : n.area = .ok a) :
    a.exits = (n.children.filter (·.name == "connects")).map exit := by
  cases hi : holdings [] n.children with
  | error flaw => simp [area, hi, bind, Except.bind] at h
  | ok items =>
    cases hf : (n.children.filter (·.name == "prop")).mapM fixture with
    | error flaw => simp [area, hi, hf, bind, Except.bind] at h
    | ok fixtures =>
      simp only [area, hi, hf, bind, Except.bind, pure, Except.pure, Except.ok.injEq] at h
      rw [← h]

theorem Checked.idsOf_eq {root : Node} (h : root.Checked) {tag : String}
    (ht : tag ∈ ["entry", "area", "item"]) :
    (root.children.filter (·.tagged tag)).map (·.attr "id") = root.idsOf tag := by
  obtain ⟨hfilled, -, -⟩ := idComplaints_eq_nil.mp (h.ids tag ht)
  rw [idsOf]
  generalize root.children.filter (·.tagged tag) = nodes at hfilled
  induction nodes with
  | nil => rfl
  | cons n nodes ih =>
    simp only [List.forall_mem_cons] at hfilled
    obtain ⟨id, hid⟩ := Option.isSome_iff_exists.mp hfilled.1
    simp [hid, attr_of_filled? hid, ih hfilled.2]

theorem Checked.nodup_idsOf {root : Node} (h : root.Checked) {tag : String}
    (ht : tag ∈ ["entry", "area", "item"]) : (root.idsOf tag).Nodup :=
  (idComplaints_eq_nil.mp (h.ids tag ht)).2.1

theorem Checked.rows_eq {root : Node} (h : root.Checked) {tag : String}
    (ht : tag ∈ ["entry", "area", "item"]) {α : Type} (f : Node → α) :
    Table.ofRows ((root.children.filter (·.tagged tag)).map fun n => (n.attr "id", f n)) =
      (root.children.filter (·.tagged tag)).map fun n => (n.attr "id", f n) := by
  refine Table.ofRows_eq ?_
  have hkeys := h.idsOf_eq ht
  simpa [Table.keys, Function.comp_def, hkeys] using h.nodup_idsOf ht

theorem Checked.keys_rows {root : Node} (h : root.Checked) {tag : String}
    (ht : tag ∈ ["entry", "area", "item"]) {α : Type} (f : Node → α) :
    Table.keys ((root.children.filter (·.tagged tag)).map fun n => (n.attr "id", f n)) =
      root.idsOf tag := by
  simpa [Table.keys, Function.comp_def] using h.idsOf_eq ht

end Node

namespace World

open Node

/-- Areas that are filled, or still bare. -/
structure Filled (areas items : List String) (t : Table String Area) : Prop where
  keys : t.keys = areas
  ids : ∀ row ∈ t, row.2.id = row.1
  sound : ∀ row ∈ t, row.2.Sound areas items

theorem Filled.put {areas items : List String} {t : Table String Area} (h : Filled areas items t)
    {a : Area} (hid : a.id ∈ areas) (ha : a.Sound areas items) :
    Filled areas items (t.put a.id a) := by
  constructor
  · rw [Table.keys_put, h.keys, if_pos hid]
  · intro row hrow
    rcases Table.mem_put hrow with rfl | hold
    · rfl
    · exact h.ids row hold
  · intro row hrow
    rcases Table.mem_put hrow with rfl | hold
    · exact ha
    · exact h.sound row hold

theorem fillAreas_reads {areas items : List String} {nodes : List Node}
    (hn : ∀ n ∈ nodes, n.attr "id" ∈ areas ∧ areaComplaints areas items n = [])
    {t : Table String Area} (ht : Filled areas items t) :
    Reads (nodes.flatMap mentionsBelow) (Filled areas items) (fillAreas t nodes) := by
  induction nodes generalizing t with
  | nil => exact .pure ht
  | cons n nodes ih =>
    simp only [List.forall_mem_cons] at hn
    rw [List.flatMap_cons]
    refine (area_reads hn.1.2).bind fun a ha => ih hn.2 (ht.put ?_ ha.2)
    rw [ha.1]
    exact hn.1.1

theorem fillAreas_all {P : Area → Prop} (hP : ∀ (n : Node) (a : Area), n.area = .ok a → P a)
    {nodes : List Node} {t filled : Table String Area} (ht : ∀ row ∈ t, P row.2)
    (h : fillAreas t nodes = .ok filled) : ∀ row ∈ filled, P row.2 := by
  induction nodes generalizing t with
  | nil =>
    cases h
    exact ht
  | cons n nodes ih =>
    cases ha : n.area with
    | error flaw => simp [fillAreas, ha, bind, Except.bind] at h
    | ok a =>
      simp only [fillAreas, ha, bind, Except.bind] at h
      refine ih (fun row hrow => ?_) h
      rcases Table.mem_put hrow with rfl | hold
      · exact hP n a ha
      · exact ht row hold

theorem load_ok {root : Node} {w : World} (h : load root = .ok w) : ∃ areas,
    fillAreas (Table.ofRows ((root.children.filter (·.tagged "area")).map fun n =>
      (n.attr "id", n.bareArea))) (root.children.filter (·.tagged "area")) = .ok areas ∧
    w.areas = areas ∧
    w.scenes = Table.ofRows ((root.children.filter (·.tagged "entry")).map fun n =>
      (n.attr "id", Scene.ofNode n)) := by
  rw [load] at h
  cases hf : fillAreas (Table.ofRows ((root.children.filter (·.tagged "area")).map fun n =>
      (n.attr "id", n.bareArea))) (root.children.filter (·.tagged "area")) with
  | error flaw => simp [hf, bind, Except.bind] at h
  | ok areas =>
    simp only [hf, bind, Except.bind, pure, Except.pure, Except.ok.injEq] at h
    subst h
    exact ⟨areas, rfl, rfl, rfl⟩

theorem load_areas_all {P : Area → Prop} (hbare : ∀ n : Node, P n.bareArea)
    (hfull : ∀ (n : Node) (a : Area), n.area = .ok a → P a) {root : Node} {w : World}
    (h : load root = .ok w) : ∀ row ∈ w.areas, P row.2 := by
  obtain ⟨areas, hf, hareas, -⟩ := load_ok h
  rw [hareas]
  refine fillAreas_all hfull (fun row hrow => ?_) hf
  obtain ⟨n, -, rfl⟩ := List.mem_map.mp (Table.mem_ofRows hrow)
  exact hbare n

theorem load_cues {root : Node} {w : World} (h : load root = .ok w) :
    ∀ row ∈ w.scenes, ∀ cue ∈ row.2.cues, ∃ n : Node, n.cue? = some cue := by
  obtain ⟨areas, -, -, hscenes⟩ := load_ok h
  intro row hrow cue hcue
  rw [hscenes] at hrow
  obtain ⟨n, -, rfl⟩ := List.mem_map.mp (Table.mem_ofRows hrow)
  obtain ⟨child, -, hchild⟩ := List.mem_filterMap.mp hcue
  exact ⟨child, hchild⟩

structure LoadedFrom (root : Node) (w : World) : Prop where
  sound : w.Sound
  scenes : w.scenes = (root.children.filter (·.tagged "entry")).map fun n =>
    (n.attr "id", Scene.ofNode n)

theorem load_reads {root : Node} (h : root.Checked) :
    Reads root.mentions (LoadedFrom root) (load root) := by
  have hbare : Filled (root.idsOf "area") (root.idsOf "item")
      ((root.children.filter (·.tagged "area")).map fun n => (n.attr "id", n.bareArea)) := by
    refine ⟨h.keys_rows (by simp) bareArea, ?_, ?_⟩
    · intro row hrow
      obtain ⟨n, -, rfl⟩ := List.mem_map.mp hrow
      rfl
    · intro row hrow
      obtain ⟨n, -, rfl⟩ := List.mem_map.mp hrow
      exact ⟨by simp [bareArea], Holdings.Stocked.empty _, by simp [bareArea]⟩
  have hnodes : ∀ n ∈ root.children.filter (·.tagged "area"), n.attr "id" ∈ root.idsOf "area" ∧
      areaComplaints (root.idsOf "area") (root.idsOf "item") n = [] := by
    intro n hn
    obtain ⟨hmem, htag⟩ := List.mem_filter.mp hn
    refine ⟨?_, h.areas n hmem htag⟩
    rw [← h.idsOf_eq (by simp)]
    exact List.mem_map.mpr ⟨n, hn, rfl⟩
  have hcues : ∀ n ∈ root.children.filter (·.tagged "entry"), ∀ cue ∈ (Scene.ofNode n).cues,
      cue.Within (root.idsOf "area") := by
    intro n hn cue hcue
    obtain ⟨hmem, htag⟩ := List.mem_filter.mp hn
    obtain ⟨child, hchild, hsome⟩ := List.mem_filterMap.mp hcue
    exact targets_of_no_complaint child
      (h.scenes n hmem htag child (List.mem_filter.mp hchild).1) cue hsome
  rw [load, h.rows_eq (by simp), h.rows_eq (by simp), h.rows_eq (by simp)]
  refine (fillAreas_reads hnodes hbare).map fun areas ha => ⟨⟨?_, ha.ids, ?_, ?_⟩, rfl⟩
  · intro row hrow
    obtain ⟨n, -, rfl⟩ := List.mem_map.mp hrow
    rfl
  · have hitems := h.keys_rows (by simp : "item" ∈ ["entry", "area", "item"]) Node.item
    simpa only [ha.keys, hitems] using ha.sound
  · intro row hrow
    obtain ⟨n, hn, rfl⟩ := List.mem_map.mp hrow
    simpa only [ha.keys] using hcues n hn

theorem ofDocument_ok {document : Node} {w : World} : ofDocument document = .ok w ↔
    document.worldRoot.Checked ∧ load document.worldRoot = .ok w := by
  rw [← complaints_eq_nil, ofDocument]
  cases document.worldRoot.complaints with
  | cons c found => simp
  | nil => cases load document.worldRoot <;> simp

theorem loadedFrom_of_ok {root : Node} {w : World} (h : root.Checked) (hload : load root = .ok w) :
    LoadedFrom root w := by
  have hread := load_reads h
  rw [hload] at hread
  cases hread with
  | all _ hw => exact hw

/-- A document against which nothing is found is loaded exactly if all that its mentions call
`amount` can be read, also where `ammount` counts instead. Nothing else keeps it from being
loaded. -/
theorem loads_iff_aliases_readable {root : Node} (h : root.complaints = []) :
    ((∃ w, load root = .ok w) ↔ ∀ n ∈ root.mentions, n.AliasReadable) ∧
    ∀ flaw, load root = .error flaw → ∃ n ∈ root.mentions, ∃ raw,
      (n.attr? "ammount").isSome ∧ n.filled? "amount" = some raw ∧ Text.integer? raw = none ∧
      flaw = .notInteger "amount" n.name raw := by
  have hread := load_reads (complaints_eq_nil.mp h)
  refine ⟨hread.iff_readable, fun flaw hflaw => ?_⟩
  rw [hflaw] at hread
  cases hread with
  | @flawed n raw hn hfirst hraw hbad => exact ⟨n, hn, raw, hfirst, hraw, hbad, rfl⟩

def countedTwice (amount : String) : Node :=
  ⟨"adventure", [], "", [
    ⟨"entry", [("id", "1")], "", []⟩,
    ⟨"item", [("id", "coin"), ("name", "Coin")], "", []⟩,
    ⟨"area", [("id", "yard")], "", [
      ⟨"contains", [("item", "coin"), ("ammount", "2"), ("amount", amount)], "", []⟩]⟩]⟩

theorem loads_counted_twice : ∃ w, load (countedTwice "3") = .ok w := by
  refine (loads_iff_aliases_readable (by decide +kernel)).1.mpr fun n hn raw hraw => ?_
  have hm : (countedTwice "3").mentions = [
      ⟨"contains", [("item", "coin"), ("ammount", "2"), ("amount", "3")], "", []⟩] := rfl
  rw [hm, List.mem_singleton] at hn
  subst hn
  have hthree : some "3" = some raw := hraw
  cases hthree
  decide +kernel

/-- Nothing is found against a second amount that is no integer, and yet it is read. -/
theorem valid_document_refused : (countedTwice "x").complaints = [] ∧
    load (countedTwice "x") = .error (.notInteger "amount" "contains" "x") :=
  ⟨by decide +kernel, rfl⟩

end World

end Fabula

import Fabula.Proofs.Complaint

/-!
Well-formed documents, said without looking for what is wrong with them: ids are there and differ,
and all that refers to something names it. Nothing is found against exactly these documents.
-/

set_option autoImplicit false

namespace Fabula

namespace Node

def Declares (root : Node) (tag id : String) : Prop :=
  ∃ n ∈ root.children, n.tagged tag = true ∧ n.filled? "id" = some id

def Names (root n : Node) (key tag : String) : Prop :=
  ∃ id, n.filled? key = some id ∧ root.Declares tag id

/-- A node is reached from another: it is a child, or a child of choices and options on the way. -/
inductive Reaches : Node → Node → Prop where
  | child {n m : Node} : m ∈ n.children → Reaches n m
  | through {n m k : Node} : m ∈ n.children → m.tagged "select" = true ∨ m.tagged "option" = true →
      Reaches m k → Reaches n k

/-- A mention of an item that is there. If it writes an amount, that reads as a positive integer, and
so has no more digits than are read. -/
structure Mentions (root n : Node) : Prop where
  item : root.Names n "item" "item"
  amount : ∀ raw, (n.attr? "ammount").or (n.attr? "amount") = some raw →
    ∃ k, Text.integer? raw = some k ∧ 1 ≤ k

/-- An exit to an area that is there. A key need not be given, nor be filled in. -/
structure Leads (root n : Node) : Prop where
  target : root.Names n "to" "area"
  direction : (n.filled? "dir").isSome
  kind : (n.filled? "type").isSome
  key : ∀ key, n.attr? "key" = some key → key = "" ∨ root.Declares "item" key

structure Furnishes (root n : Node) : Prop where
  name : (n.filled? "name").isSome
  mentions : ∀ child ∈ n.children, child.name = "contains" → root.Mentions child

structure WellFormed (root : Node) : Prop where
  name : root.name = "adventure"
  ids : ∀ tag ∈ ["entry", "area", "item"], ∀ n ∈ root.children, n.tagged tag →
    (n.filled? "id").isSome
  unique : ∀ tag ∈ ["entry", "area", "item"],
    (root.children.filter (·.tagged tag)).Pairwise fun n m => n.attr? "id" ≠ m.attr? "id"
  start : root.Declares "entry" startScene
  items : ∀ n ∈ root.children, n.tagged "item" → (n.filled? "name").isSome
  scenes : ∀ n ∈ root.children, n.tagged "entry" →
    ∀ m, n.Reaches m → m.tagged "enter" → root.Names m "area" "area"
  areas : ∀ n ∈ root.children, n.tagged "area" → ∀ child ∈ n.children,
    (child.name = "contains" → root.Mentions child) ∧
    (child.name = "connects" → root.Leads child) ∧
    (child.name = "prop" → root.Furnishes child)

theorem mem_idsOf {root : Node} {tag id : String} : id ∈ root.idsOf tag ↔ root.Declares tag id := by
  simp [idsOf, Declares, and_assoc]

theorem filled?_eq_some {n : Node} {key text : String} :
    n.filled? key = some text ↔ n.attr? key = some text ∧ text ≠ "" := by
  rw [filled?, Option.filter_eq_some_iff, bne_iff_ne]

theorem writtenAmount?_eq (n : Node) :
    n.writtenAmount? = (n.attr? "ammount").or (n.attr? "amount") := by
  rw [writtenAmount?]
  cases n.attr? "ammount" <;> rfl

theorem idComplaints_eq_nil_iff_unique {tag : String} {nodes : List Node} :
    idComplaints tag [] nodes = [] ↔
      (∀ n ∈ nodes, n.tagged tag → (n.filled? "id").isSome) ∧
      (nodes.filter (·.tagged tag)).Pairwise fun n m => n.attr? "id" ≠ m.attr? "id" := by
  have hfilter : (∀ n ∈ nodes.filter (·.tagged tag), (n.filled? "id").isSome) ↔
      ∀ n ∈ nodes, n.tagged tag → (n.filled? "id").isSome := by simp
  rw [idComplaints_eq_nil, hfilter]
  refine and_congr_right fun hfilled => ?_
  -- Ids that are filled in differ if and only if the attributes do.
  rw [List.Nodup, List.pairwise_filterMap]
  simp only [List.not_mem_nil, not_false_eq_true, implies_true, and_true]
  refine List.Pairwise.iff_of_mem fun {n m} hn hm => ?_
  obtain ⟨hn, hntag⟩ := List.mem_filter.mp hn
  obtain ⟨hm, hmtag⟩ := List.mem_filter.mp hm
  obtain ⟨id, hid⟩ := Option.isSome_iff_exists.mp (hfilled n hn hntag)
  obtain ⟨id', hid'⟩ := Option.isSome_iff_exists.mp (hfilled m hm hmtag)
  simp [hid, hid', (filled?_eq_some.mp hid).1, (filled?_eq_some.mp hid').1]

section

variable {root : Node}

theorem mentionComplaints_eq_nil_iff_mentions {holder : Holder} {n : Node} :
    mentionComplaints (root.idsOf "item") holder n = [] ↔ root.Mentions n := by
  simp only [mentionComplaints_eq_nil, mem_idsOf, writtenAmount?_eq]
  exact ⟨fun h => ⟨h.1, h.2⟩, fun h => ⟨h.item, h.amount⟩⟩

theorem exitComplaints_eq_nil_iff_leads {area : Option String} {n : Node} :
    exitComplaints (root.idsOf "area") (root.idsOf "item") area n = [] ↔ root.Leads n := by
  have hkeys (key : String) := @filled?_eq_some n "key" key
  simp only [exitComplaints_eq_nil, mem_idsOf, hkeys]
  constructor
  · rintro ⟨htarget, hdirection, hkind, hkey⟩
    refine ⟨htarget, hdirection, hkind, fun key hwritten => ?_⟩
    by_cases hempty : key = ""
    · exact .inl hempty
    · exact .inr (hkey key ⟨hwritten, hempty⟩)
  · intro h
    refine ⟨h.target, h.direction, h.kind, ?_⟩
    rintro key ⟨hwritten, hfilled⟩
    exact (h.key key hwritten).resolve_left hfilled

theorem fixtureComplaints_eq_nil_iff_furnishes {area : Option String} {n : Node} :
    fixtureComplaints (root.idsOf "item") area n = [] ↔ root.Furnishes n := by
  simp only [fixtureComplaints_eq_nil, mentionComplaints_eq_nil_iff_mentions]
  exact ⟨fun h => ⟨h.1, h.2⟩, fun h => ⟨h.name, h.mentions⟩⟩

theorem enter_of_no_complaint {areas : List String} {scene : Option String} {n m : Node}
    (hr : n.Reaches m) (hnone : ∀ child ∈ n.children, cueComplaints areas scene child = [])
    (henter : m.tagged "enter" = true) : ∃ id, m.filled? "area" = some id ∧ id ∈ areas := by
  induction hr with
  | @child n m hm =>
    have hcue := hnone m hm
    rw [cueComplaints_eq, if_pos henter] at hcue
    cases hid : m.filled? "area" with
    | none => simp [hid] at hcue
    | some id => exact ⟨id, rfl, by simpa [hid] using hcue⟩
  | @through n m k hm htag _ ih =>
    refine ih (fun child hc => ?_) henter
    have hcue := hnone m hm
    have hother : m.tagged "enter" = false := htag.elim
      (tagged_unique · (by decide)) (tagged_unique · (by decide))
    rw [cueComplaints_eq, hother, if_neg Bool.false_ne_true, if_pos (by simpa using htag),
      cuesComplaints_eq, List.flatMap_eq_nil_iff] at hcue
    exact hcue child hc

/-- The search for areas that are entered goes just where a node reaches. -/
theorem cueComplaints_eq_nil_iff {areas : List String} {scene : Option String} (n : Node) :
    (∀ child ∈ n.children, cueComplaints areas scene child = []) ↔
      ∀ m, n.Reaches m → m.tagged "enter" → ∃ id, m.filled? "area" = some id ∧ id ∈ areas := by
  refine ⟨fun hnone m hr => enter_of_no_complaint hr hnone, ?_⟩
  induction n using induct with
  | step n ih =>
    intro hnames child hc
    rw [cueComplaints_eq]
    by_cases henter : child.tagged "enter" = true
    · obtain ⟨id, hid, hknown⟩ := hnames child (.child hc) henter
      simp [henter, hid, hknown]
    · rw [if_neg henter]
      split
      · next htag =>
        rw [cuesComplaints_eq, List.flatMap_eq_nil_iff]
        exact ih child hc fun m hr => hnames m (.through hc (by simpa using htag) hr)
      · rfl

/-- Nothing is found against a document if and only if it is well formed. -/
theorem nothing_found_iff_wellFormed : root.complaints = [] ↔ root.WellFormed := by
  rw [complaints_eq_nil]
  constructor
  · intro h
    exact {
      name := h.name
      ids := fun tag ht => (idComplaints_eq_nil_iff_unique.mp (h.ids tag ht)).1
      unique := fun tag ht => (idComplaints_eq_nil_iff_unique.mp (h.ids tag ht)).2
      start := mem_idsOf.mp h.start
      items := h.items
      scenes := fun n hn htag m hr henter => by
        simpa only [Names, mem_idsOf] using
          (cueComplaints_eq_nil_iff n).mp (h.scenes n hn htag) m hr henter
      areas := fun n hn htag child hc => by
        simpa only [mentionComplaints_eq_nil_iff_mentions, exitComplaints_eq_nil_iff_leads,
          fixtureComplaints_eq_nil_iff_furnishes] using
          areaComplaints_eq_nil.mp (h.areas n hn htag) child hc }
  · intro h
    exact {
      name := h.name
      ids := fun tag ht => idComplaints_eq_nil_iff_unique.mpr ⟨h.ids tag ht, h.unique tag ht⟩
      start := mem_idsOf.mpr h.start
      items := h.items
      scenes := fun n hn htag => (cueComplaints_eq_nil_iff n).mpr fun m hr henter => by
        simpa only [Names, mem_idsOf] using h.scenes n hn htag m hr henter
      areas := fun n hn htag => areaComplaints_eq_nil.mpr fun child hc => by
        simpa only [mentionComplaints_eq_nil_iff_mentions, exitComplaints_eq_nil_iff_leads,
          fixtureComplaints_eq_nil_iff_furnishes] using h.areas n hn htag child hc }

end

end Node

end Fabula

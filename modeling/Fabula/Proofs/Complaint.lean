import Fabula.Proofs.Cue

set_option autoImplicit false

namespace Fabula

namespace Node

theorem idComplaints_eq_nil {tag : String} {seen : List String} {nodes : List Node} :
    idComplaints tag seen nodes = [] ↔
      (∀ n ∈ nodes.filter (·.tagged tag), (n.filled? "id").isSome) ∧
      ((nodes.filter (·.tagged tag)).filterMap (·.filled? "id")).Nodup ∧
      ∀ id ∈ (nodes.filter (·.tagged tag)).filterMap (·.filled? "id"), id ∉ seen := by
  induction nodes generalizing seen with
  | nil => simp [idComplaints]
  | cons n nodes ih =>
    by_cases htag : n.tagged tag = true
    · cases hid : n.filled? "id" with
      | none => simp [idComplaints, htag, hid]
      | some id =>
        by_cases hseen : id ∈ seen
        · simp [idComplaints, htag, hid, hseen]
        · have hids : (n :: nodes.filter (·.tagged tag)).filterMap (·.filled? "id") =
              id :: (nodes.filter (·.tagged tag)).filterMap (·.filled? "id") := by simp [hid]
          simp only [idComplaints, htag, hid, hseen, if_true, if_false, List.nil_append, ih,
            List.filter_cons_of_pos, hids, List.mem_cons, List.nodup_cons]
          grind
    · simp [idComplaints, htag, ih]

theorem mentionComplaints_eq_nil {items : List String} {holder : Holder} {n : Node} :
    mentionComplaints items holder n = [] ↔
      (∃ id, n.filled? "item" = some id ∧ id ∈ items) ∧
      ∀ raw, n.writtenAmount? = some raw → ∃ k, Text.integer? raw = some k ∧ 1 ≤ k := by
  rw [mentionComplaints, List.append_eq_nil_iff]
  refine and_congr ?_ ?_
  · cases hid : n.filled? "item" with
    | none => simp
    | some id => by_cases hm : id ∈ items <;> simp [hm]
  · cases hraw : n.writtenAmount? with
    | none => simp
    | some raw =>
      cases hk : Text.integer? raw with
      | none => simp [hk]
      | some k =>
        by_cases hp : k < 1
        · simp [hk, hp]
        · simp [hk, hp]
          omega

theorem exitComplaints_eq_nil {areas items : List String} {area : Option String} {n : Node} :
    exitComplaints areas items area n = [] ↔
      (∃ id, n.filled? "to" = some id ∧ id ∈ areas) ∧ (n.filled? "dir").isSome ∧
      (n.filled? "type").isSome ∧ ∀ key, n.filled? "key" = some key → key ∈ items := by
  simp only [exitComplaints, List.append_eq_nil_iff, and_assoc]
  refine and_congr ?_ (and_congr ?_ (and_congr ?_ ?_))
  · cases hid : n.filled? "to" with
    | none => simp
    | some id => by_cases hm : id ∈ areas <;> simp [hm]
  · cases n.filled? "dir" <;> simp
  · cases n.filled? "type" <;> simp
  · cases hkey : n.filled? "key" with
    | none => simp
    | some key => by_cases hm : key ∈ items <;> simp [hm]

theorem fixtureComplaints_eq_nil {items : List String} {area : Option String} {n : Node} :
    fixtureComplaints items area n = [] ↔
      (n.filled? "name").isSome ∧ ∀ child ∈ n.children, child.name = "contains" →
        mentionComplaints items (.fixture (n.attr? "name") area) child = [] := by
  simp only [fixtureComplaints, List.append_eq_nil_iff, List.flatMap_eq_nil_iff, List.mem_filter,
    beq_iff_eq, and_imp]
  cases n.filled? "name" <;> simp

theorem areaComplaints_eq_nil {areas items : List String} {n : Node} :
    areaComplaints areas items n = [] ↔ ∀ child ∈ n.children,
      (child.name = "contains" → mentionComplaints items (.area (n.attr? "id")) child = []) ∧
      (child.name = "connects" → exitComplaints areas items (n.attr? "id") child = []) ∧
      (child.name = "prop" → fixtureComplaints items (n.attr? "id") child = []) := by
  simp only [areaComplaints, List.flatMap_eq_nil_iff]
  refine forall₂_congr fun child _ => ?_
  by_cases hc : child.name = "contains"
  · simp [hc]
  by_cases he : child.name = "connects"
  · simp [he]
  by_cases hf : child.name = "prop" <;> simp [hc, he, hf]

structure Checked (root : Node) : Prop where
  name : root.name = "adventure"
  ids : ∀ tag ∈ ["entry", "area", "item"], idComplaints tag [] root.children = []
  start : startScene ∈ root.idsOf "entry"
  items : ∀ n ∈ root.children, n.tagged "item" → (n.filled? "name").isSome
  scenes : ∀ n ∈ root.children, n.tagged "entry" →
    ∀ child ∈ n.children, cueComplaints (root.idsOf "area") (n.attr? "id") child = []
  areas : ∀ n ∈ root.children, n.tagged "area" →
    areaComplaints (root.idsOf "area") (root.idsOf "item") n = []

theorem childComplaints_eq_nil {areas items : List String} {n : Node} :
    childComplaints areas items n = [] ↔
      (n.tagged "item" → (n.filled? "name").isSome) ∧
      (n.tagged "entry" → ∀ child ∈ n.children, cueComplaints areas (n.attr? "id") child = []) ∧
      (n.tagged "area" → areaComplaints areas items n = []) := by
  rw [childComplaints]
  by_cases hi : n.tagged "item" = true
  · have he := tagged_unique hi (by decide : "item" ≠ "entry")
    have ha := tagged_unique hi (by decide : "item" ≠ "area")
    cases hn : n.filled? "name" <;> simp [hi, he, ha, hn, itemComplaints]
  by_cases he : n.tagged "entry" = true
  · have ha := tagged_unique he (by decide : "entry" ≠ "area")
    simp [hi, he, ha, cuesComplaints_eq]
  by_cases ha : n.tagged "area" = true <;> simp [hi, he, ha]

theorem complaints_eq_nil {root : Node} : root.complaints = [] ↔ root.Checked := by
  rw [complaints]
  by_cases hname : root.name = "adventure"
  · simp only [hname, ne_eq, not_true_eq_false, if_false, List.append_eq_nil_iff,
      List.flatMap_eq_nil_iff, childComplaints_eq_nil]
    by_cases hstart : startScene ∈ root.idsOf "entry"
    · simp only [hstart, if_true]
      constructor
      · rintro ⟨⟨⟨⟨he, ha⟩, hi⟩, -⟩, hc⟩
        exact ⟨hname, by simp [he, ha, hi], hstart, fun n hn => (hc n hn).1,
          fun n hn => (hc n hn).2.1, fun n hn => (hc n hn).2.2⟩
      · intro h
        have hids := h.ids
        simp only [List.forall_mem_cons] at hids
        exact ⟨⟨⟨⟨hids.1, hids.2.1⟩, hids.2.2.1⟩, trivial⟩,
          fun n hn => ⟨h.items n hn, h.scenes n hn, h.areas n hn⟩⟩
    · simp only [hstart, if_false, List.cons_ne_nil, and_false, false_and, false_iff]
      exact fun h => hstart h.start
  · simp only [hname, ne_eq, not_false_eq_true, if_true, List.cons_ne_nil, false_iff]
    exact fun h => hname h.name

end Node

end Fabula

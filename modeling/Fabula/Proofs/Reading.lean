import Fabula.Proofs.Grammar

set_option autoImplicit false

namespace Fabula

theorem exists_mapM {α β ε : Type} {f : α → Except ε β} {l : List α}
    (h : ∀ x ∈ l, ∃ y, f x = .ok y) : ∃ ys, l.mapM f = .ok ys := by
  cases hl : l.mapM f with
  | ok ys => exact ⟨ys, rfl⟩
  | error e =>
    obtain ⟨x, hx, hfails⟩ := exists_of_mapM_error hl
    obtain ⟨y, hy⟩ := h x hx
    rw [hy] at hfails
    cases hfails

namespace Yaml.Tree

open Value (Under WritesRow isAttribute)
open Text (Wide)

theorem unlessBroken_eq_ok {α : Type} {x : Except Breakdown α} {a : α} :
    unlessBroken x = .ok a ↔ x = .ok a :=
  mapError_eq_ok

section

variable {cs : Compounds} {deepestShown : Nat} {child : Value → Except Refusal Tree}

structure Filled (cs : Compounds) (deepestShown : Nat) (child : Value → Except Refusal Tree)
    (es : List (Value × Value)) (s t : Tree) : Prop where
  name : t.name = s.name
  attributes : ∃ rows, List.Forall₂ (WritesRow cs deepestShown) (es.filter isAttribute) rows ∧
    t.attributes = rows.foldl (fun t row => t.put row.1 row.2) s.attributes
  text : Under es "value" (fun u => u.scalarText cs deepestShown = .ok t.value) (t.value = s.value)
  children : Under es "children"
    (fun u => ∃ us, u.parts? cs = some us ∧ us.mapM child = .ok t.children)
    (t.children = s.children)

theorem isText_other {key : Value} {name other : String} (h : key.isText name = true)
    (hother : name ≠ other) : key.isText other = false := by
  rw [Value.isText_iff.mp h, Value.word_isText]
  exact decide_eq_false hother

theorem withEntries_ok {es : List (Value × Value)} {s t : Tree}
    (hes : es.Pairwise fun e e' => Value.sameKey e.1 e'.1 = false)
    (h : withEntries cs deepestShown child es s = .ok t) : Filled cs deepestShown child es s t := by
  induction es generalizing s with
  | nil =>
    obtain rfl := Except.ok.inj h
    exact ⟨rfl, ⟨[], .nil, rfl⟩, ⟨by simp, fun _ => rfl⟩, ⟨by simp, fun _ => rfl⟩⟩
  | cons e es ih =>
    obtain ⟨key, v⟩ := e
    have hrest := (List.pairwise_cons.mp hes).2
    have hothers (name : String) (hkey : key.isText name = true) :=
      Value.not_isText_of_pairwise hes hkey
    rw [withEntries] at h
    split at h
    · next hkey =>
      obtain ⟨us, hus, h⟩ := bind_ok h
      obtain ⟨children, hchildren, h⟩ := bind_ok h
      have hfilled := ih hrest h
      have hnone := hfilled.children.absent (hothers _ hkey)
      refine ⟨hfilled.name, ?_, hfilled.text.skip (isText_other hkey (by decide)),
        .here hes hkey ⟨us, childValues_ok hus, hnone ▸ hchildren⟩⟩
      rw [List.filter_cons_of_neg (by simp [isAttribute, hkey])]
      exact hfilled.attributes
    · next hkey =>
      have hkey' : key.isText "children" = false := Bool.eq_false_iff.mpr hkey
      obtain ⟨text, htext, h⟩ := bind_ok h
      rw [unlessBroken_eq_ok] at htext
      split at h
      · next hvalue =>
        have hfilled := ih hrest h
        have hnone := hfilled.text.absent (hothers _ hvalue)
        refine ⟨hfilled.name, ?_, .here hes hvalue (hnone ▸ htext), hfilled.children.skip hkey'⟩
        rw [List.filter_cons_of_neg (by simp [isAttribute, hvalue])]
        exact hfilled.attributes
      · next hvalue =>
        have hvalue' : key.isText "value" = false := Bool.eq_false_iff.mpr hvalue
        obtain ⟨name, hname, h⟩ := bind_ok h
        rw [unlessBroken_eq_ok] at hname
        have hfilled := ih hrest h
        obtain ⟨rows, hrows, hattributes⟩ := hfilled.attributes
        refine ⟨hfilled.name, ⟨(name, text) :: rows, ?_, hattributes⟩,
          hfilled.text.skip hvalue', hfilled.children.skip hkey'⟩
        rw [List.filter_cons_of_pos (by simp [isAttribute, hkey', hvalue'])]
        exact .cons ⟨hname, htext⟩ hrows

theorem exists_withEntries {es : List (Value × Value)}
    (hchildren : ∀ e ∈ es, e.1.isText "children" = true →
      ∃ us, e.2.parts? cs = some us ∧ ∃ trees, us.mapM child = .ok trees)
    (htexts : ∀ e ∈ es, e.1.isText "value" = true →
      ∃ text, e.2.scalarText cs deepestShown = .ok text)
    (hattributes : ∀ e ∈ es.filter isAttribute, ∃ row, WritesRow cs deepestShown e row)
    (s : Tree) : ∃ t, withEntries cs deepestShown child es s = .ok t := by
  induction es generalizing s with
  | nil => exact ⟨s, rfl⟩
  | cons e es ih =>
    obtain ⟨key, v⟩ := e
    rw [List.forall_mem_cons] at hchildren htexts
    have hrest := ih hchildren.2 htexts.2 fun e he => hattributes e (by
      rw [List.filter_cons]
      split <;> simp [he])
    rw [withEntries]
    by_cases hkey : key.isText "children" = true
    · obtain ⟨us, hus, trees, htrees⟩ := hchildren.1 hkey
      obtain ⟨t, ht⟩ := hrest { s with children := trees }
      exact ⟨t, by simp [hkey, childValues, hus, htrees, ht, bind, Except.bind]⟩
    · by_cases hvalue : key.isText "value" = true
      · obtain ⟨text, htext⟩ := htexts.1 hvalue
        obtain ⟨t, ht⟩ := hrest { s with value := text }
        exact ⟨t, by simp [hkey, hvalue, htext, unlessBroken, Except.mapError, ht, bind,
          Except.bind]⟩
      · obtain ⟨⟨name, text⟩, hname, htext⟩ := hattributes (key, v) (by
          simp [isAttribute, hkey, hvalue])
        obtain ⟨t, ht⟩ := hrest { s with attributes := s.attributes.put name text }
        exact ⟨t, by simp [hkey, hvalue, hname, htext, unlessBroken, Except.mapError, ht, bind,
          Except.bind]⟩

end

section

variable {cs : Compounds} {deepestShown depth : Nat} {u v : Value} {t : Tree}

theorem compound_of_ok (h : ofValueWithin cs deepestShown depth v = .ok t) :
    ∃ number, v = .compound number := by
  cases depth with
  | zero => cases h
  | succ depth =>
    rw [ofValueWithin] at h
    split at h
    · next hv =>
      obtain ⟨number, hnumber, -⟩ := Value.compound?_eq_some.mp hv
      exact ⟨number, hnumber⟩
    · obtain ⟨_, -, hflaw⟩ := bind_ok h
      cases hflaw

/-- The parts of a value are compounds in a list only, unless there are none. -/
theorem parts_compounds (hcs : cs.Proper) (hpair : ¬u.IsPair cs) {us : List Value}
    (hus : u.parts? cs = some us) (hall : ∀ w ∈ us, ∃ number, w = .compound number) :
    u.Vacant cs ∧ us = [] ∨ u.compound? cs = some (.list us) := by
  by_cases hnone : us = []
  · exact .inl ⟨Value.parts?_eq_nil.mp (hnone ▸ hus), hnone⟩
  · refine .inr ?_
    obtain ⟨w, hw⟩ := List.exists_mem_of_ne_nil us hnone
    obtain ⟨number, rfl⟩ := hall w hw
    rcases Value.parts?_cases hus hw with ⟨m, c, rfl, hc, -⟩ | ⟨s, hs⟩ | ⟨o, ho⟩
    · have hproper := hcs c (Array.mem_of_getElem? hc)
      cases c with
      | list items =>
        simp only [Value.parts?, hc, Option.some.injEq] at hus
        exact hc.trans (by rw [hus])
      | mapping es =>
        simp only [Value.parts?, hc, Option.some.injEq] at hus
        obtain ⟨e, he, hkey⟩ := List.mem_map.mp (hus ▸ hw)
        have husable := (hproper.1 e he).1
        rw [hkey] at husable
        cases husable
      | set members =>
        simp only [Value.parts?, hc, Option.some.injEq] at hus
        cases hproper _ (hus ▸ hw)
      | pair first second => exact absurd ⟨first, second, hc⟩ hpair
    · cases hs
    · cases ho

theorem lists_of_under (hcs : cs.Proper) {body : Value} {es : List (Value × Value)}
    (hes : body.compound? cs = some (.mapping es)) {trees : List Tree}
    (h : Under es "children" (fun u => ∃ us, u.parts? cs = some us ∧
      us.mapM (ofValueWithin cs deepestShown depth) = .ok trees) (trees = [])) :
    ∃ items, body.Lists cs items ∧
      items.mapM (ofValueWithin cs deepestShown depth) = .ok trees := by
  have hproper := hcs.mapping hes
  by_cases hkey : ∃ e ∈ es, e.1.isText "children" = true
  · obtain ⟨e, he, hkey⟩ := hkey
    obtain ⟨us, hus, htrees⟩ := h.given e he hkey
    have hall : ∀ w ∈ us, ∃ number, w = .compound number := by
      intro w hw
      obtain ⟨t, ht⟩ := exists_of_forall₂ (forall₂_of_mapM (fun _ _ _ => id) htrees) w hw
      exact compound_of_ok ht
    refine ⟨us, ?_, htrees⟩
    rcases parts_compounds hcs (hproper.1 e he).2 hus hall with ⟨hvacant, rfl⟩ | hlist
    · refine .none hes fun e' he' hkey' => ?_
      rwa [Value.entry_unique hproper.2 he' he hkey' hkey]
    · exact .listed hes he hkey hlist
  · have habsent : ∀ e ∈ es, e.1.isText "children" = false := fun e he =>
      Bool.eq_false_iff.mpr fun htext => hkey ⟨e, he, htext⟩
    refine ⟨[], .none hes fun e he htext => absurd htext ?_, by rw [h.absent habsent]; rfl⟩
    rw [habsent e he]
    exact Bool.false_ne_true

inductive Step (cs : Compounds) (deepestShown : Nat) (child : Value → Except Refusal Tree)
    (v : Value) (t : Tree) : Prop where
  | node {key body : Value} {items : List Value} :
      v.compound? cs = some (.mapping [(key, body)]) → key.plain cs deepestShown = .ok t.name →
      body.Holds cs deepestShown t.attributes t.value → body.Lists cs items →
      items.mapM child = .ok t.children → Step cs deepestShown child v t

theorem ofValueWithin_ok (hcs : cs.Proper)
    (h : ofValueWithin cs deepestShown (depth + 1) v = .ok t) :
    Step cs deepestShown (ofValueWithin cs deepestShown depth) v t := by
  rw [ofValueWithin] at h
  split at h
  · next key body hv =>
    dsimp only at h
    split at h
    · next es hes =>
      obtain ⟨s, hs, h⟩ := bind_ok h
      obtain ⟨name, hname, h⟩ := bind_ok h
      obtain rfl := Except.ok.inj h
      have hfilled := withEntries_ok (hcs.mapping hes).2 hs
      obtain ⟨rows, hrows, hattributes⟩ := hfilled.attributes
      obtain ⟨items, hlists, hitems⟩ := lists_of_under hcs hes hfilled.children
      have hcollects : Table.Collects rows s.attributes := by
        rw [hattributes]
        exact Table.ofRows_collects rows
      exact .node hv (unlessBroken_eq_ok.mp hname) (.entries hes hrows hcollects hfilled.text)
        hlists hitems
    · next items hitems =>
      obtain ⟨name, hname, h⟩ := bind_ok h
      obtain ⟨children, hchildren, h⟩ := bind_ok h
      obtain rfl := Except.ok.inj h
      exact .node hv (unlessBroken_eq_ok.mp hname) (.list hitems) (.list hitems) hchildren
    · next hes hitems =>
      obtain ⟨name, hname, h⟩ := bind_ok h
      obtain ⟨text, htext, h⟩ := bind_ok h
      obtain rfl := Except.ok.inj h
      exact .node hv (unlessBroken_eq_ok.mp hname)
        (.alone hes hitems (unlessBroken_eq_ok.mp htext)) (.alone hes hitems) rfl
  · obtain ⟨_, -, hflaw⟩ := bind_ok h
    cases hflaw

theorem exists_ofValueWithin (hcs : cs.Proper) {key body : Value} {items : List Value}
    {name text : Wide} {attributes : Table Wide Wide} {trees : List Tree}
    (hv : v.compound? cs = some (.mapping [(key, body)]))
    (hname : key.plain cs deepestShown = .ok name)
    (hholds : body.Holds cs deepestShown attributes text) (hlists : body.Lists cs items)
    (hitems : items.mapM (ofValueWithin cs deepestShown depth) = .ok trees) :
    ∃ t, ofValueWithin cs deepestShown (depth + 1) v = .ok t := by
  have hname' : unlessBroken (key.plain cs deepestShown) = .ok name := unlessBroken_eq_ok.mpr hname
  cases hholds with
  | alone hes hlist htext =>
    have htext' : unlessBroken (body.scalarText cs deepestShown) = .ok text :=
      unlessBroken_eq_ok.mpr htext
    refine ⟨⟨name, [], text, []⟩, ?_⟩
    rw [ofValueWithin, hv]
    dsimp only
    split
    · next es h => exact absurd h (hes es)
    · next items h => exact absurd h (hlist items)
    · rw [hname', htext']
      rfl
  | list hlist =>
    obtain rfl := hlists.unique hcs (.list hlist)
    refine ⟨⟨name, [], [], trees⟩, ?_⟩
    simp only [ofValueWithin, hv, hlist, hname', hitems, bind, Except.bind, pure, Except.pure]
  | @entries es rows _ _ hes hrows _ htext =>
    have hproper := hcs.mapping hes
    have hchildren : ∀ e ∈ es, e.1.isText "children" = true → ∃ us, e.2.parts? cs = some us ∧
        ∃ trees, us.mapM (ofValueWithin cs deepestShown depth) = .ok trees := by
      intro e he hkey
      by_cases hvacant : e.2.Vacant cs
      · exact ⟨[], Value.parts?_eq_nil.mpr hvacant, [], rfl⟩
      · cases hlists with
        | alone h => exact absurd hes (h es)
        | list h => cases hes.symm.trans h
        | none h hall =>
          obtain rfl := Compound.mapping.inj (Option.some.inj (hes.symm.trans h))
          exact absurd (hall e he hkey) hvacant
        | listed h he' hkey' hlist =>
          obtain rfl := Compound.mapping.inj (Option.some.inj (hes.symm.trans h))
          obtain rfl := Value.entry_unique hproper.2 he he' hkey hkey'
          obtain ⟨number, hnumber, hc⟩ := Value.compound?_eq_some.mp hlist
          exact ⟨items, by simp [hnumber, Value.parts?, hc], trees, hitems⟩
    obtain ⟨t, ht⟩ := exists_withEntries hchildren (fun e he hkey => ⟨text, htext.given e he hkey⟩)
      (exists_of_forall₂ hrows) ⟨[], [], [], []⟩
    refine ⟨{ t with name }, ?_⟩
    simp only [ofValueWithin, hv, hes, hname', ht, bind, Except.bind, pure, Except.pure]

/-- What is read is a node, and the tree is the one that it stands for. -/
theorem means_of_ok (hcs : cs.Proper) (h : ofValueWithin cs deepestShown depth v = .ok t) :
    v.IsNode cs ∧ v.Means cs deepestShown t := by
  induction depth generalizing v t with
  | zero => cases h
  | succ depth ih =>
    obtain ⟨hv, hname, hholds, hlists, hitems⟩ := ofValueWithin_ok hcs h
    have hread : List.Forall₂
        (fun (u : Value) child => u.IsNode cs ∧ u.Means cs deepestShown child) _ _ :=
      forall₂_of_mapM (fun _ _ _ => ih) hitems
    refine ⟨.node hv hlists fun u hu => ?_,
      .node hv hname hholds hlists (hread.imp fun _ _ => And.right)⟩
    obtain ⟨_, hnode, -⟩ := exists_of_forall₂ hread u hu
    exact hnode

theorem height_le_of_ok (hcs : cs.Proper) (h : ofValueWithin cs deepestShown depth v = .ok t) :
    t.node.height ≤ depth := by
  induction depth generalizing v t with
  | zero => cases h
  | succ depth ih =>
    obtain ⟨-, -, -, -, hitems⟩ := ofValueWithin_ok hcs h
    have hread : List.Forall₂ (fun child _ => child.node.height ≤ depth) t.children _ :=
      (forall₂_of_mapM (fun _ _ _ => ih) hitems).flip
    rw [Node.height_eq, children_node]
    refine Nat.succ_le_succ (Node.heights_le fun n hn => ?_)
    obtain ⟨child, hchild, rfl⟩ := List.mem_map.mp hn
    obtain ⟨_, hbelow⟩ := exists_of_forall₂ hread child hchild
    exact hbelow

theorem tells_of_ok (hcs : cs.Proper) {k : Nat} (hu : v.NodeIn cs k u)
    (h : ofValueWithin cs deepestShown depth v = .ok t) :
    k < depth ∧ ∃ name attributes text, u.Tells cs deepestShown name attributes text := by
  induction hu generalizing depth t with
  | self v =>
    cases depth with
    | zero => cases h
    | succ depth =>
      obtain ⟨hv, hname, hholds, -, -⟩ := ofValueWithin_ok hcs h
      exact ⟨Nat.succ_pos depth, _, _, _, _, _, hv, hname, hholds⟩
  | child hv hlists hw _ ih =>
    cases depth with
    | zero => cases h
    | succ depth =>
      obtain ⟨hv', -, -, hlists', hitems⟩ := ofValueWithin_ok hcs h
      obtain ⟨rfl, rfl⟩ : _ = _ ∧ _ = _ := by simpa using hv.symm.trans hv'
      obtain rfl := hlists.unique hcs hlists'
      obtain ⟨_, hread⟩ := exists_of_forall₂ (forall₂_of_mapM (fun _ _ _ => id) hitems) _ hw
      obtain ⟨hlt, htells⟩ := ih hread
      exact ⟨Nat.succ_lt_succ hlt, htells⟩

theorem exists_of_isNode (hcs : cs.Proper) (hv : v.IsNode cs)
    (h : ∀ k u, v.NodeIn cs k u →
      k < depth ∧ ∃ name attributes text, u.Tells cs deepestShown name attributes text) :
    ∃ t, ofValueWithin cs deepestShown depth v = .ok t := by
  induction hv generalizing depth with
  | @node v key body items hv hlists _ ih =>
    obtain ⟨hdepth, name, attributes, text, key', body', hv', hname, hholds⟩ := h 0 v (.self v)
    obtain ⟨depth, rfl⟩ := Nat.exists_eq_succ_of_ne_zero (Nat.ne_of_gt hdepth)
    obtain ⟨rfl, rfl⟩ : _ = _ ∧ _ = _ := by simpa using hv.symm.trans hv'
    have hread : ∀ w ∈ items, ∃ t, ofValueWithin cs deepestShown depth w = .ok t := by
      intro w hw
      refine ih w hw fun k u hu => ?_
      obtain ⟨hlt, htells⟩ := h (k + 1) u (.child hv hlists hw hu)
      exact ⟨Nat.lt_of_succ_lt_succ hlt, htells⟩
    obtain ⟨trees, htrees⟩ := exists_mapM hread
    exact exists_ofValueWithin hcs hv hname hholds hlists htrees

end

/-- Of the values in a whole document just those of the grammar are read as nodes in which none is
too deep, and each can be told; and they are read as the trees that they stand for. What keeps a
value of the grammar from being read is an integer in it that is too long to be written, or
compounds that are too deep to be followed. -/
theorem nodes_read {d : Document} (hd : d.Whole) (deepestShown deepest : Nat) (v : Value) :
    let read := ofValueWithin d.compounds deepestShown deepest
    ((∃ t, read v = .ok t) ↔ v.IsNode d.compounds ∧
      ∀ depth u, v.NodeIn d.compounds depth u → depth < deepest ∧
        ∃ name attributes text, u.Tells d.compounds deepestShown name attributes text) ∧
    (∀ t, read v = .ok t → v.Means d.compounds deepestShown t) ∧
    (v.Fit d.compounds (min deepestShown (2 * deepest)) →
      ((∃ t, read v = .ok t) ↔ v.IsNode d.compounds)) := by
  obtain ⟨-, hcs, hproper⟩ := hd
  intro read
  have hread : ∀ t, read v = .ok t → v.IsNode d.compounds ∧ v.Means d.compounds deepestShown t :=
    fun t ht => means_of_ok hproper ht
  refine ⟨⟨fun ⟨t, ht⟩ => ⟨(hread t ht).1, fun depth u hu => tells_of_ok hproper hu ht⟩,
    fun ⟨hnode, htells⟩ => exists_of_isNode hproper hnode htells⟩, fun t ht => (hread t ht).2,
    fun hfit => ⟨fun ⟨t, ht⟩ => (hread t ht).1, fun hnode =>
      exists_of_isNode hproper hnode fun k u => hfit.tells hcs hproper hnode⟩⟩

def halvesText : String :=
  "entry:\n  \"\\ud800\": 1\n  \"\\ud801\": 2\n  children:\n  - text: Rain.\n"

theorem nodes_read_entry : ∃ d t, Readers.usual.yaml halvesText.toList = .ok d ∧
    ofValueWithin d.compounds Readers.usual.deepestShown Readers.usual.deepest d.value = .ok t ∧
    d.value.IsNode d.compounds ∧ d.value.Means d.compounds Readers.usual.deepestShown t ∧
    t.name = .ofString "entry" ∧
    t.attributes = [([.half 0xD800], .ofString "1"), ([.half 0xD801], .ofString "2")] ∧
    t.children.map (·.value) = [.ofString "Rain."] := by
  have hrun : (Readers.usual.yaml halvesText.toList).toOption.any (fun d =>
      (ofValueWithin d.compounds Readers.usual.deepestShown Readers.usual.deepest
        d.value).toOption.any fun t => t.name = .ofString "entry" ∧
          t.attributes = [([.half 0xD800], .ofString "1"), ([.half 0xD801], .ofString "2")] ∧
          t.children.map (·.value) = [.ofString "Rain."]) = true := by
    decide +kernel
  obtain ⟨d, hd, hany⟩ := ok_of_any hrun
  obtain ⟨t, ht, hparts⟩ := ok_of_any hany
  obtain ⟨hiff, hmeans, -⟩ := nodes_read (SoundReaders.usual.whole hd)
    Readers.usual.deepestShown Readers.usual.deepest d.value
  exact ⟨d, t, hd, ht, (hiff.mp ⟨t, ht⟩).1, hmeans t ht, of_decide_eq_true hparts⟩

def numberDocument (i : Int) : Document :=
  ⟨.compound 0, #[.mapping [(Value.word "a", .integer i)]]⟩

theorem numberDocument_isNode (i : Int) : (numberDocument i).Whole ∧
    (numberDocument i).value.IsNode (numberDocument i).compounds := by
  refine ⟨⟨Nat.zero_lt_one, ?_, ?_⟩, .node rfl (.alone ?_ ?_) (by simp)⟩
  · simp [Compounds.Closed, numberDocument, Compound.members, Value.Known, Value.word]
  · simp [Compounds.Proper, numberDocument, Compound.Proper, Value.word, Value.canBeKey,
      Value.IsPair, Value.compound?]
  all_goals simp [Value.compound?]

theorem number_unread {i : Int} (hlong : Text.tooLong ≤ i.natAbs) (deepestShown depth : Nat) :
    ofValueWithin (numberDocument i).compounds deepestShown (depth + 1)
      (numberDocument i).value = .error (.breakdown .tooLong) := by
  generalize hd : numberDocument i = d
  have hnode : d.value.compound? d.compounds =
      some (.mapping [(Value.word "a", .integer i)]) := by
    rw [← hd]
    rfl
  have hbody : (Value.integer i).compound? d.compounds = none := rfl
  have halone : (Value.integer i).shownAlone = .error .tooLong := by
    rw [Value.shownAlone, if_neg (Nat.not_lt.mpr hlong)]
  have htext : (Value.integer i).scalarText d.compounds deepestShown = .error .tooLong := by
    cases deepestShown <;> simp only [Value.scalarText, Value.plain, Value.shown,
      Value.shownWithin, halone, Except.map]
  simp only [ofValueWithin, hnode, hbody, Value.word, Value.text_plain, htext, unlessBroken,
    Except.mapError, bind, Except.bind]

/-- A value of the grammar that is not read, however deep one may go: the number is the least one
too long to be written. -/
theorem long_number_unread : (numberDocument Text.tooLong).Whole ∧
    (numberDocument Text.tooLong).value.IsNode (numberDocument Text.tooLong).compounds ∧
    ∀ deepestShown depth, ofValueWithin (numberDocument Text.tooLong).compounds deepestShown
      (depth + 1) (numberDocument Text.tooLong).value = .error (.breakdown .tooLong) :=
  have hlong : Text.tooLong ≤ (Text.tooLong : Int).natAbs :=
    Nat.le_of_eq (Int.natAbs_natCast _).symm
  ⟨(numberDocument_isNode _).1, (numberDocument_isNode _).2, number_unread hlong⟩

end Yaml.Tree

end Fabula

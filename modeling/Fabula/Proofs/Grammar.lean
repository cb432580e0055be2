import Mathlib.Data.List.Forall2
import Fabula.Proofs.Meaning
import Fabula.Proofs.Notation

/-!
The grammar of nodes among the values of documents. A node is a mapping with one key, to a body in
one of three forms; the children that a body lists are nodes again. What a node tells by itself can
be written, unless something in it is too long or stands too deep.
-/

set_option autoImplicit false

namespace Fabula

theorem exists_forall₂ {α β : Type} {R : α → β → Prop} {l : List α} (h : ∀ x ∈ l, ∃ y, R x y) :
    ∃ m, List.Forall₂ R l m := by
  induction l with
  | nil => exact ⟨[], .nil⟩
  | cons x l ih =>
    rw [List.forall_mem_cons] at h
    obtain ⟨y, hy⟩ := h.1
    obtain ⟨m, hm⟩ := ih h.2
    exact ⟨y :: m, .cons hy hm⟩

theorem exists_of_forall₂ {α β : Type} {R : α → β → Prop} {l : List α} {m : List β}
    (h : List.Forall₂ R l m) : ∀ x ∈ l, ∃ y, R x y :=
  have hboth := h.imp fun x y hxy => (⟨⟨y, hxy⟩, hxy⟩ : (∃ y, R x y) ∧ R x y)
  ((List.forall₂_and_left _ _).mp hboth).1

namespace Yaml

open Text (Wide)

theorem Compounds.Proper.mapping {cs : Compounds} (hcs : cs.Proper) {v : Value}
    {es : List (Value × Value)} (hv : v.compound? cs = some (.mapping es)) :
    (Compound.mapping es).Proper cs := by
  obtain ⟨n, -, hn⟩ := Value.compound?_eq_some.mp hv
  exact hcs _ (Array.mem_of_getElem? hn)

namespace Value

theorem isText_iff {key : Value} {name : String} :
    key.isText name = true ↔ key = word name := by
  cases key <;> simp [isText, word]

structure Under (es : List (Value × Value)) (name : String) (given : Value → Prop)
    (absent : Prop) : Prop where
  given : ∀ e ∈ es, e.1.isText name = true → given e.2
  absent : (∀ e ∈ es, e.1.isText name = false) → absent

section

variable {es : List (Value × Value)} {key v : Value} {name : String} {given : Value → Prop}
  {absent : Prop}

theorem Under.skip (h : Under es name given absent) (hkey : key.isText name = false) :
    Under ((key, v) :: es) name given absent where
  given := List.forall_mem_cons.mpr ⟨fun htext => by simp [hkey] at htext, h.given⟩
  absent := fun hnone => h.absent (List.forall_mem_cons.mp hnone).2

theorem not_isText_of_pairwise {first : Value × Value}
    (hes : (first :: es).Pairwise fun e e' => sameKey e.1 e'.1 = false)
    (hkey : first.1.isText name = true) : ∀ e ∈ es, e.1.isText name = false := by
  intro e he
  have hother := (List.pairwise_cons.mp hes).1 e he
  cases htext : e.1.isText name with
  | false => rfl
  | true =>
    rw [isText_iff.mp hkey, isText_iff.mp htext] at hother
    simp [word, sameKey] at hother

theorem entry_unique (hes : es.Pairwise fun e e' => sameKey e.1 e'.1 = false)
    {e e' : Value × Value} (he : e ∈ es) (he' : e' ∈ es) (hkey : e.1.isText name = true)
    (hkey' : e'.1.isText name = true) : e = e' := by
  induction es with
  | nil => cases he
  | cons first es ih =>
    rcases List.mem_cons.mp he with rfl | hmem
    · rcases List.mem_cons.mp he' with rfl | hmem'
      · rfl
      · simp [not_isText_of_pairwise hes hkey e' hmem'] at hkey'
    · rcases List.mem_cons.mp he' with rfl | hmem'
      · simp [not_isText_of_pairwise hes hkey' e hmem] at hkey
      · exact ih (List.pairwise_cons.mp hes).2 hmem hmem'

theorem Under.here (hes : ((key, v) :: es).Pairwise fun e e' => sameKey e.1 e'.1 = false)
    (hkey : key.isText name = true) (hv : given v) : Under ((key, v) :: es) name given absent where
  given := List.forall_mem_cons.mpr ⟨fun _ => hv, fun e he htext => by
    simp [not_isText_of_pairwise hes hkey e he] at htext⟩
  absent := fun hnone => by simp [(List.forall_mem_cons.mp hnone).1] at hkey

end

/-- The children that a body lists: the items of a list, or of the list under `children` in a
mapping. A mapping lists none if there is no such entry, or if nothing stands there; no more does a
body of any other kind. -/
inductive Lists (cs : Compounds) (body : Value) : List Value → Prop where
  | alone : (∀ es, body.compound? cs ≠ some (.mapping es)) →
      (∀ items, body.compound? cs ≠ some (.list items)) → Lists cs body []
  | list {items : List Value} : body.compound? cs = some (.list items) → Lists cs body items
  | none {es : List (Value × Value)} : body.compound? cs = some (.mapping es) →
      (∀ e ∈ es, e.1.isText "children" = true → e.2.Vacant cs) → Lists cs body []
  | listed {es : List (Value × Value)} {e : Value × Value} {items : List Value} :
      body.compound? cs = some (.mapping es) → e ∈ es → e.1.isText "children" = true →
      e.2.compound? cs = some (.list items) → Lists cs body items

/-- A value of the grammar of nodes. -/
inductive IsNode (cs : Compounds) : Value → Prop where
  | node {v key body : Value} {items : List Value} :
      v.compound? cs = some (.mapping [(key, body)]) → body.Lists cs items →
      (∀ u ∈ items, IsNode cs u) → IsNode cs v

/-- A node that is found in another one, so many nodes deep. -/
inductive NodeIn (cs : Compounds) : Nat → Value → Value → Prop where
  | self (v : Value) : NodeIn cs 0 v v
  | child {depth : Nat} {v key body w u : Value} {items : List Value} :
      v.compound? cs = some (.mapping [(key, body)]) → body.Lists cs items → w ∈ items →
      NodeIn cs depth w u → NodeIn cs (depth + 1) v u

def isAttribute (e : Value × Value) : Bool :=
  !e.1.isText "children" && !e.1.isText "value"

def WritesRow (cs : Compounds) (deepestShown : Nat) (e : Value × Value) (row : Wide × Wide) :
    Prop :=
  e.1.plain cs deepestShown = .ok row.1 ∧ e.2.scalarText cs deepestShown = .ok row.2

/-- What a body holds besides the children that it lists: attributes, by the texts of their keys,
and a text. -/
inductive Holds (cs : Compounds) (deepestShown : Nat) (body : Value) :
    Table Wide Wide → Wide → Prop where
  | alone {text : Wide} : (∀ es, body.compound? cs ≠ some (.mapping es)) →
      (∀ items, body.compound? cs ≠ some (.list items)) →
      body.scalarText cs deepestShown = .ok text → Holds cs deepestShown body [] text
  | list {items : List Value} : body.compound? cs = some (.list items) →
      Holds cs deepestShown body [] []
  | entries {es : List (Value × Value)} {rows attributes : Table Wide Wide} {text : Wide} :
      body.compound? cs = some (.mapping es) →
      List.Forall₂ (WritesRow cs deepestShown) (es.filter isAttribute) rows →
      Table.Collects rows attributes →
      Under es "value" (fun u => u.scalarText cs deepestShown = .ok text) (text = []) →
      Holds cs deepestShown body attributes text

def Tells (cs : Compounds) (deepestShown : Nat) (v : Value) (name : Wide)
    (attributes : Table Wide Wide) (text : Wide) : Prop :=
  ∃ key body, v.compound? cs = some (.mapping [(key, body)]) ∧
    key.plain cs deepestShown = .ok name ∧ body.Holds cs deepestShown attributes text

/-- The tree that a value of the grammar stands for. -/
inductive Means (cs : Compounds) (deepestShown : Nat) : Value → Tree → Prop where
  | node {v key body : Value} {items : List Value} {t : Tree} :
      v.compound? cs = some (.mapping [(key, body)]) → key.plain cs deepestShown = .ok t.name →
      body.Holds cs deepestShown t.attributes t.value → body.Lists cs items →
      List.Forall₂ (Means cs deepestShown) items t.children → Means cs deepestShown v t

section

variable {cs : Compounds}

/-- A body lists its children in one way only. -/
theorem Lists.unique (hcs : cs.Proper) {body : Value} {items items' : List Value}
    (h : body.Lists cs items) (h' : body.Lists cs items') : items = items' := by
  have hnothing : ∀ {v : Value} {items : List Value}, v.Vacant cs →
      v.compound? cs = some (.list items) → items = [] := by
    intro v items hvacant hitems
    obtain ⟨n, rfl, hn⟩ := compound?_eq_some.mp hitems
    cases hvacant with
    | compound hc hnone =>
      obtain rfl := Option.some.inj (hn.symm.trans hc)
      exact hnone
  cases h with
  | alone hes hitems =>
    cases h' with
    | alone => rfl
    | list h' => exact absurd h' (hitems _)
    | none h' | listed h' => exact absurd h' (hes _)
  | list h =>
    cases h' with
    | alone hes hitems => exact absurd h (hitems _)
    | list h' => exact Compound.list.inj (Option.some.inj (h.symm.trans h'))
    | none h' | listed h' => cases h.symm.trans h'
  | none h hvacant =>
    cases h' with
    | alone | none => rfl
    | list h' => cases h.symm.trans h'
    | listed h' he hkey hitems =>
      obtain rfl := Compound.mapping.inj (Option.some.inj (h.symm.trans h'))
      exact (hnothing (hvacant _ he hkey) hitems).symm
  | listed h he hkey hitems =>
    cases h' with
    | alone hes => exact absurd h (hes _)
    | list h' => cases h.symm.trans h'
    | none h' hvacant =>
      obtain rfl := Compound.mapping.inj (Option.some.inj (h.symm.trans h'))
      exact hnothing (hvacant _ he hkey) hitems
    | listed h' he' hkey' hitems' =>
      obtain rfl := Compound.mapping.inj (Option.some.inj (h.symm.trans h'))
      obtain rfl := entry_unique (hcs.mapping h).2 he he' hkey hkey'
      exact Compound.list.inj (Option.some.inj (hitems.symm.trans hitems'))

end

/-- A value without integers too long to be written or compounds too deep to be followed. -/
structure Fit (cs : Compounds) (deepest : Nat) (v : Value) : Prop where
  short : ¬v.Unfit cs deepest .tooLong
  shallow : ¬v.Unfit cs deepest .endless

section

variable {cs : Compounds} {deepest deepestShown : Nat} {u v : Value}

theorem Fit.within (h : v.Fit cs deepest) {depth : Nat} (hu : Within cs depth v u) :
    u.Fit cs deepest where
  short hlong := h.short ((hlong.within hu).mono (Nat.le_add_right ..))
  shallow hdeep := h.shallow ((hdeep.within hu).mono (Nat.le_add_right ..))

theorem Fit.plain (h : v.Fit cs deepest) (hdeepest : deepest ≤ deepestShown) (hcs : cs.Closed)
    (hv : v.Known cs.size) : ∃ text, v.plain cs deepestShown = .ok text := by
  cases hplain : v.plain cs deepestShown with
  | ok text => exact ⟨text, rfl⟩
  | error b =>
    have hshown := plain_error hplain
    have hunfit := (shown_error hcs hv hshown).mono hdeepest
    cases hunfit with
    | tooLong hwithin hlong => exact absurd (.tooLong hwithin hlong) h.short
    | endless hdeep hwithin => exact absurd (.endless hdeep hwithin) h.shallow
    | noParts => exact absurd hshown (shownWithin_noParts _ _)

theorem Fit.scalarText (h : v.Fit cs deepest) (hdeepest : deepest ≤ deepestShown)
    (hcs : cs.Closed) (hv : v.Known cs.size) : ∃ text, v.scalarText cs deepestShown = .ok text := by
  cases v with
  | null => exact ⟨_, rfl⟩
  | truth b => exact ⟨_, rfl⟩
  | _ => exact h.plain hdeepest hcs hv

theorem exists_under {es : List (Value × Value)}
    (hes : es.Pairwise fun e e' => sameKey e.1 e'.1 = false) (name : String)
    (h : ∀ e ∈ es, ∃ text, e.2.scalarText cs deepestShown = .ok text) :
    ∃ text, Under es name (fun u => u.scalarText cs deepestShown = .ok text) (text = []) := by
  by_cases hkey : ∃ e ∈ es, e.1.isText name = true
  · obtain ⟨e, he, hkey⟩ := hkey
    obtain ⟨text, htext⟩ := h e he
    refine ⟨text, fun e' he' hkey' => ?_, fun hnone => ?_⟩
    · rwa [entry_unique hes he' he hkey' hkey]
    · simp [hnone e he] at hkey
  · exact ⟨[], fun e he htext => absurd ⟨e, he, htext⟩ hkey, fun _ => rfl⟩

theorem Fit.holds {body : Value} (h : body.Fit cs deepest) (hdeepest : deepest ≤ deepestShown)
    (hcs : cs.Closed) (hproper : cs.Proper) (hbody : body.Known cs.size) :
    ∃ attributes text, body.Holds cs deepestShown attributes text := by
  by_cases hes : ∃ es, body.compound? cs = some (.mapping es)
  · obtain ⟨es, hes⟩ := hes
    obtain ⟨n, rfl, hn⟩ := compound?_eq_some.mp hes
    have hmember : ∀ e ∈ es, ∀ u, u = e.1 ∨ u = e.2 → u.Fit cs deepest ∧ u.Known cs.size := by
      intro e he u hu
      have hmem := Compound.mem_entry he hu
      exact ⟨h.within (.member hn hmem (.self u)), hcs.member hn hmem⟩
    have htexts : ∀ e ∈ es, ∃ text, e.2.scalarText cs deepestShown = .ok text := fun e he =>
      have hvalue := hmember e he e.2 (.inr rfl)
      hvalue.1.scalarText hdeepest hcs hvalue.2
    have hrows : ∀ e ∈ es.filter isAttribute, ∃ row, WritesRow cs deepestShown e row := by
      intro e he
      have hkey := hmember e (List.mem_filter.mp he).1 e.1 (.inl rfl)
      obtain ⟨name, hname⟩ := hkey.1.plain hdeepest hcs hkey.2
      obtain ⟨text, htext⟩ := htexts e (List.mem_filter.mp he).1
      exact ⟨(name, text), hname, htext⟩
    obtain ⟨rows, hrows⟩ := exists_forall₂ hrows
    obtain ⟨text, htext⟩ := exists_under (hproper.mapping hes).2 "value" htexts
    exact ⟨_, text, .entries hes hrows (Table.ofRows_collects rows) htext⟩
  · by_cases hitems : ∃ items, body.compound? cs = some (.list items)
    · obtain ⟨items, hitems⟩ := hitems
      exact ⟨[], [], .list hitems⟩
    · obtain ⟨text, htext⟩ := h.scalarText hdeepest hcs hbody
      exact ⟨[], text, .alone (not_exists.mp hes) (not_exists.mp hitems) htext⟩

theorem Lists.within {body w : Value} {items : List Value} (h : body.Lists cs items)
    (hw : w ∈ items) : ∃ depth, 1 ≤ depth ∧ Within cs depth body w := by
  cases h with
  | alone | none => cases hw
  | list hitems =>
    obtain ⟨n, rfl, hn⟩ := compound?_eq_some.mp hitems
    exact ⟨1, Nat.le_refl 1, .member hn hw (.self w)⟩
  | listed hes he _ hitems =>
    obtain ⟨n, rfl, hn⟩ := compound?_eq_some.mp hes
    obtain ⟨m, hm, hlist⟩ := compound?_eq_some.mp hitems
    refine ⟨2, by decide, .member hn (Compound.mem_entry he (.inr rfl)) ?_⟩
    rw [hm]
    exact .member hlist hw (.self w)

/-- Each node takes two compounds at least, one for itself and one for its children. -/
theorem NodeIn.within {k : Nat} (h : v.NodeIn cs k u) :
    ∃ depth, 2 * k ≤ depth ∧ Within cs depth v u := by
  induction h with
  | self v => exact ⟨0, Nat.le_refl 0, .self v⟩
  | child hv hlists hw _ ih =>
    obtain ⟨depth, hdepth, hwithin⟩ := ih
    obtain ⟨n, rfl, hn⟩ := compound?_eq_some.mp hv
    obtain ⟨between, hbetween, hchild⟩ := hlists.within hw
    have hbody := Within.member hn (Compound.mem_single (.inr rfl)) hchild
    exact ⟨_, by omega, hbody.trans hwithin⟩

theorem NodeIn.isNode {k : Nat} (h : v.NodeIn cs k u) (hproper : cs.Proper)
    (hv : v.IsNode cs) : u.IsNode cs := by
  induction h with
  | self => exact hv
  | child hbody hlists hw _ ih =>
    obtain ⟨hbody', hlists', hall⟩ := hv
    obtain ⟨rfl, rfl⟩ : _ = _ ∧ _ = _ := by simpa using hbody.symm.trans hbody'
    obtain rfl := hlists.unique hproper hlists'
    exact ih (hall _ hw)

theorem Fit.tells {most : Nat} (h : v.Fit cs (min deepestShown (2 * most))) (hcs : cs.Closed)
    (hproper : cs.Proper) (hv : v.IsNode cs) {k : Nat} (hu : v.NodeIn cs k u) :
    k < most ∧ ∃ name attributes text, u.Tells cs deepestShown name attributes text := by
  obtain ⟨depth, hdepth, hwithin⟩ := hu.within
  obtain @⟨_, key, body, _, hnode, -, -⟩ := hu.isNode hproper hv
  obtain ⟨n, rfl, hn⟩ := compound?_eq_some.mp hnode
  have hdeepest := Nat.min_le_left deepestShown (2 * most)
  refine ⟨?_, ?_⟩
  · by_contra hdeep
    exact h.shallow (.endless (by omega) hwithin)
  · have hmember : ∀ w : Value, w = key ∨ w = body →
        w.Fit cs (min deepestShown (2 * most)) ∧ w.Known cs.size := by
      intro w hw
      have hmem := Compound.mem_single hw
      exact ⟨(h.within hwithin).within (.member hn hmem (.self w)), hcs.member hn hmem⟩
    obtain ⟨hkey, hknown⟩ := hmember key (.inl rfl)
    obtain ⟨hbody, hknown'⟩ := hmember body (.inr rfl)
    obtain ⟨name, hname⟩ := hkey.plain hdeepest hcs hknown
    obtain ⟨attributes, text, hholds⟩ := hbody.holds hdeepest hcs hproper hknown'
    exact ⟨name, attributes, text, key, body, hnode, hname, hholds⟩

end

end Value

end Yaml

end Fabula

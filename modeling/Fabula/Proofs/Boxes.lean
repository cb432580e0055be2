import Fabula.Boxes
import Fabula.Proofs.Holdings

set_option autoImplicit false

namespace Fabula

namespace Holdings

theorem removable_eq {h : Holdings} (hl : h.Listed) (item : String) (n : Int) :
    h.removable item n = min (max n 0) (h.amount item) := by
  have hpositive := amount_nonneg hl item
  unfold removable
  split <;> omega

/-- The ids that are listed after a change: some of the old ones, in their order, or the old ones
and a new one behind them. -/
inductive Relisted (ids : List String) : List String → Prop where
  | kept {rest : List String} : rest.Sublist ids → Relisted ids rest
  | joined {item : String} : item ∉ ids → Relisted ids (ids ++ [item])

theorem relisted_put (h : Holdings) (item : String) (n : Int) :
    Relisted (Table.keys h) (Table.keys (Table.put item n h)) := by
  rw [Table.keys_put]
  by_cases hk : item ∈ Table.keys h
  · rw [if_pos hk]
    exact .kept (List.Sublist.refl _)
  · rw [if_neg hk]
    exact .joined hk

theorem relisted_add (h : Holdings) (item : String) (n : Int) :
    Relisted (Table.keys h) (Table.keys (h.add item n)) := by
  unfold add
  split
  · exact .kept (List.Sublist.refl _)
  · exact relisted_put h item _

theorem relisted_remove (h : Holdings) (item : String) (n : Int) :
    Relisted (Table.keys h) (Table.keys (h.remove item n)) := by
  unfold remove
  split
  · exact .kept (List.Sublist.refl _)
  · split
    · exact relisted_put h item _
    · exact .kept ((Table.erase_sublist item h).map _)

end Holdings

namespace Boxes

inductive Change where
  | add (name item : String) (n : Int)
  | remove (name item : String) (n : Int)
  | move (source target item : String) (n : Int)
  deriving Repr, DecidableEq

def apply (b : Boxes) : Change → Boxes
  | .add name item n => b.add name item n
  | .remove name item n => b.remove name item n
  | .move source target item n => b.move source target item n

def returned (b : Boxes) : Change → Int
  | .add .. => 0
  | .remove name item n => (b.box name).removable item n
  | .move source _ item n => (b.box source).removable item n

def after (b : Boxes) (changes : List Change) : Boxes := changes.foldl apply b

section

variable (name item : String)

def added : Change → Int
  | .add box it n => if box = name ∧ it = item then max n 0 else 0
  | _ => 0

def movedIn (b : Boxes) : Change → Int
  | .move source target it n =>
    if target = name ∧ it = item then b.returned (.move source target it n) else 0
  | _ => 0

def takenOut (b : Boxes) : Change → Int
  | .add .. => 0
  | .remove box it n => if box = name ∧ it = item then b.returned (.remove box it n) else 0
  | .move source target it n =>
    if source = name ∧ it = item then b.returned (.move source target it n) else 0

end

def tally (count : Boxes → Change → Int) : Boxes → List Change → Int
  | _, [] => 0
  | b, c :: changes => count b c + tally count (b.apply c) changes

/-- The boxes after each single removal or addition of a change; a move is the one and then the
other. -/
def moments (b : Boxes) : Change → List Boxes
  | .add name item n => [b.add name item n]
  | .remove name item n => [b.remove name item n]
  | .move source target item n => [b.remove source item n, b.move source target item n]

/-- The boxes after each single removal or addition of a history. -/
def course (b : Boxes) : List Change → List Boxes
  | [] => []
  | c :: changes => b.moments c ++ course (b.apply c) changes

/-- At a moment an item comes to lie in a box in which there was none. -/
def Arrives (states : List Boxes) (name item : String) (k : Nat) : Prop :=
  ∃ b c, states[k]? = some b ∧ states[k + 1]? = some c ∧
    item ∉ Table.keys (b.box name) ∧ item ∈ Table.keys (c.box name)

def LastArrives (states : List Boxes) (name item : String) (k : Nat) : Prop :=
  Arrives states name item k ∧ ∀ m, k < m → ¬Arrives states name item m

/-- Items are listed in the order in which they last arrived. -/
structure Chronological (states : List Boxes) (name : String) (ids : List String) : Prop where
  arrived : ∀ item ∈ ids, ∃ k, LastArrives states name item k
  inOrder : ids.Pairwise fun item other => ∀ k m,
    LastArrives states name item k → LastArrives states name other m → k < m

section

variable {b : Boxes} {name : String}

@[simp] theorem box_nil (name : String) : box [] name = [] := rfl

theorem box_change (b : Boxes) (name other : String) (f : Holdings → Holdings) :
    (b.change name f).box other = if name = other then f (b.box name) else b.box other := by
  unfold change box
  by_cases h : name = other
  · subst h
    simp [Table.get?_put_self]
  · simp [h, Table.get?_put_ne h]

def Listed (b : Boxes) : Prop := ∀ name, (b.box name).Listed

theorem Listed.empty : Listed [] := fun _ => .empty

theorem Listed.change (hb : b.Listed) (name : String) {f : Holdings → Holdings}
    (hf : ∀ h : Holdings, h.Listed → (f h).Listed) : (b.change name f).Listed := by
  intro other
  rw [box_change]
  split
  · exact hf _ (hb name)
  · exact hb other

theorem Listed.add (hb : b.Listed) (name item : String) (n : Int) : (b.add name item n).Listed :=
  hb.change name fun _ hl => Holdings.listed_add hl item n

theorem Listed.remove (hb : b.Listed) (name item : String) (n : Int) :
    (b.remove name item n).Listed :=
  hb.change name fun _ hl => Holdings.listed_remove hl item n

theorem Listed.apply (hb : b.Listed) (c : Change) : (b.apply c).Listed := by
  cases c with
  | add name item n => exact hb.add name item n
  | remove name item n => exact hb.remove name item n
  | move source target item n => exact (hb.remove source item n).add target item _

theorem Listed.after (hb : b.Listed) (changes : List Change) : (b.after changes).Listed := by
  induction changes generalizing b with
  | nil => exact hb
  | cons c changes ih => exact ih (hb.apply c)

theorem amount_add (b : Boxes) (name item : String) (n : Int) (other it : String) :
    ((b.add name item n).box other).amount it =
      (b.box other).amount it + if name = other ∧ item = it then max n 0 else 0 := by
  rw [add, box_change]
  by_cases hname : name = other
  · subst hname
    by_cases hn : 0 ≤ n
    · simp [Holdings.amount_add _ item hn, Int.max_eq_left hn]
    · have hnone : (b.box name).add item n = b.box name := by
        rw [Holdings.add, if_pos (by omega)]
      simp [hnone, Int.max_eq_right (Int.le_of_not_le hn)]
  · simp [hname]

theorem amount_remove (hb : b.Listed) (name item : String) (n : Int) (other it : String) :
    ((b.remove name item n).box other).amount it = (b.box other).amount it -
      if name = other ∧ item = it then (b.box name).removable item n else 0 := by
  rw [remove, box_change]
  by_cases hname : name = other
  · subst hname
    simp [Holdings.amount_remove (hb name)]
  · simp [hname]

theorem amount_apply (hb : b.Listed) (c : Change) (name item : String) :
    ((b.apply c).box name).amount item = (b.box name).amount item +
      added name item c + b.movedIn name item c - b.takenOut name item c := by
  cases c with
  | add box it n => simp [apply, amount_add, added, movedIn, takenOut]
  | remove box it n => simp [apply, amount_remove hb, added, movedIn, takenOut, returned]
  | move source target it n =>
    have hmoved := Holdings.removable_nonneg (hb source) it n
    simp only [apply, move, amount_add, amount_remove hb, added, movedIn,
      takenOut, returned, Int.max_eq_left hmoved]
    omega

theorem amount_after (hb : b.Listed) (changes : List Change) (name item : String) :
    ((b.after changes).box name).amount item = (b.box name).amount item +
      tally (fun _ => added name item) b changes + tally (movedIn name item) b changes -
      tally (takenOut name item) b changes := by
  induction changes generalizing b with
  | nil => simp [after, tally]
  | cons c changes ih =>
    have hlater := ih (hb.apply c)
    have hfirst := amount_apply hb c name item
    simp only [after, List.foldl_cons, tally] at hlater ⊢
    omega

end

section

variable {states : List Boxes} {b c : Boxes} {name : String}

theorem LastArrives.unique {item : String} {k m : Nat} (h : LastArrives states name item k)
    (h' : LastArrives states name item m) : k = m := by
  rcases Nat.lt_trichotomy k m with hlt | heq | hlt
  · exact absurd h'.1 (h.2 m hlt)
  · exact heq
  · exact absurd h.1 (h'.2 k hlt)

theorem Arrives.before {item : String} {k : Nat} (h : Arrives states name item k) :
    k + 1 < states.length := by
  obtain ⟨-, c, -, hc, -⟩ := h
  exact (List.getElem?_eq_some_iff.mp hc).1

theorem arrives_append {item : String} {k : Nat} (h : k + 1 < states.length) :
    Arrives (states ++ [c]) name item k ↔ Arrives states name item k := by
  unfold Arrives
  rw [List.getElem?_append_left (by omega), List.getElem?_append_left h]

theorem arrives_last (hlast : states.getLast? = some b) {item : String} {k : Nat}
    (hk : states.length = k + 1) : Arrives (states ++ [c]) name item k ↔
      item ∉ Table.keys (b.box name) ∧ item ∈ Table.keys (c.box name) := by
  have hb : states[k]? = some b := by
    rw [← hlast, List.getLast?_eq_getElem?, hk, Nat.add_sub_cancel]
  have hfirst : (states ++ [c])[k]? = some b := by
    rw [List.getElem?_append_left (by omega), hb]
  have hsecond : (states ++ [c])[k + 1]? = some c := by
    rw [← hk, List.getElem?_concat_length]
  unfold Arrives
  rw [hfirst, hsecond]
  simp

theorem arrives_bound {item : String} {k : Nat} (h : Arrives (states ++ [c]) name item k) :
    k + 1 < states.length ∨ states.length = k + 1 := by
  have hk := h.before
  simp only [List.length_append, List.length_singleton] at hk
  omega

/-- An item that was there before keeps its last arrival. -/
theorem lastArrives_kept (hlast : states.getLast? = some b) {item : String}
    (hitem : item ∈ Table.keys (b.box name)) (k : Nat) :
    LastArrives (states ++ [c]) name item k ↔ LastArrives states name item k := by
  have hsame : ∀ m, Arrives (states ++ [c]) name item m ↔ Arrives states name item m := by
    intro m
    constructor
    · intro h
      rcases arrives_bound h with hm | hm
      · exact (arrives_append hm).mp h
      · exact absurd hitem ((arrives_last hlast hm).mp h).1
    · exact fun h => (arrives_append h.before).mpr h
  simp only [LastArrives, hsame]

theorem lastArrives_joined (hlast : states.getLast? = some b) {item : String}
    (hnew : item ∉ Table.keys (b.box name)) (hitem : item ∈ Table.keys (c.box name)) {k : Nat}
    (hk : states.length = k + 1) : LastArrives (states ++ [c]) name item k := by
  refine ⟨(arrives_last hlast hk).mpr ⟨hnew, hitem⟩, fun m hm h => ?_⟩
  rcases arrives_bound h with hbound | hbound <;> omega

theorem Chronological.snoc (hlast : states.getLast? = some b)
    (h : Chronological states name (Table.keys (b.box name)))
    (hlist : Holdings.Relisted (Table.keys (b.box name)) (Table.keys (c.box name))) :
    Chronological (states ++ [c]) name (Table.keys (c.box name)) := by
  have hold : ∀ ids, ids.Sublist (Table.keys (b.box name)) →
      Chronological (states ++ [c]) name ids := by
    intro ids hids
    constructor
    · intro item hitem
      obtain ⟨k, hk⟩ := h.arrived item (hids.subset hitem)
      exact ⟨k, (lastArrives_kept hlast (hids.subset hitem) k).mpr hk⟩
    · refine (h.inOrder.sublist hids).imp_of_mem fun {item other} hitem hother horder k m hk hm => ?_
      exact horder k m ((lastArrives_kept hlast (hids.subset hitem) k).mp hk)
        ((lastArrives_kept hlast (hids.subset hother) m).mp hm)
  generalize hkeys : Table.keys (c.box name) = ids at hlist
  cases hlist with
  | kept hids => exact hold _ hids
  | @joined item hnew =>
    -- The one that is new stands last, and has arrived at the moment that is added.
    have hpos : states ≠ [] := by
      rintro rfl
      cases hlast
    have hmany := List.length_pos_iff.mpr hpos
    obtain ⟨n, hn⟩ : ∃ n, states.length = n + 1 := ⟨states.length - 1, by omega⟩
    have hin : item ∈ Table.keys (c.box name) := by simp [hkeys]
    have hitem := lastArrives_joined (c := c) hlast hnew hin hn
    have hrest := hold _ (List.Sublist.refl _)
    constructor
    · intro other hother
      rcases List.mem_append.mp hother with hother | hother
      · exact hrest.arrived other hother
      · rw [List.mem_singleton.mp hother]
        exact ⟨n, hitem⟩
    · refine List.pairwise_append.mpr ⟨hrest.inOrder, List.pairwise_singleton _ _, ?_⟩
      intro other hother it hit k m hk hm
      obtain rfl := List.mem_singleton.mp hit
      have hlater := hm.unique hitem
      have hearlier := ((lastArrives_kept hlast hother k).mp hk).1.before
      omega

theorem relisted_change {f : Holdings → Holdings}
    (hf : ∀ h : Holdings, Holdings.Relisted (Table.keys h) (Table.keys (f h))) (b : Boxes)
    (name other : String) :
    Holdings.Relisted (Table.keys (b.box other)) (Table.keys ((b.change name f).box other)) := by
  rw [box_change]
  split
  · next h => exact h ▸ hf _
  · exact .kept (List.Sublist.refl _)

theorem chronological_add (hlast : states.getLast? = some b)
    (h : ∀ name, Chronological states name (Table.keys (b.box name))) (box item : String) (n : Int)
    (name : String) : Chronological (states ++ [b.add box item n]) name
      (Table.keys ((b.add box item n).box name)) :=
  (h name).snoc hlast (relisted_change (fun _ => Holdings.relisted_add _ item n) b box name)

theorem chronological_remove (hlast : states.getLast? = some b)
    (h : ∀ name, Chronological states name (Table.keys (b.box name))) (box item : String) (n : Int)
    (name : String) : Chronological (states ++ [b.remove box item n]) name
      (Table.keys ((b.remove box item n).box name)) :=
  (h name).snoc hlast (relisted_change (fun _ => Holdings.relisted_remove _ item n) b box name)

theorem moments_last (b : Boxes) (states : List Boxes) (c : Change) :
    (states ++ b.moments c).getLast? = some (b.apply c) := by
  cases c <;> simp [moments, apply]

theorem chronological_moments (hlast : states.getLast? = some b)
    (h : ∀ name, Chronological states name (Table.keys (b.box name))) (c : Change) (name : String) :
    Chronological (states ++ b.moments c) name (Table.keys ((b.apply c).box name)) := by
  cases c with
  | add box item n => exact chronological_add hlast h box item n name
  | remove box item n => exact chronological_remove hlast h box item n name
  | move source target item n =>
    have hless := chronological_remove hlast h source item n
    rw [moments, List.append_cons]
    exact chronological_add (by simp) hless target item _ name

theorem chronological_course (hlast : states.getLast? = some b)
    (h : ∀ name, Chronological states name (Table.keys (b.box name))) (changes : List Change)
    (name : String) :
    Chronological (states ++ b.course changes) name (Table.keys ((b.after changes).box name)) := by
  induction changes generalizing states b with
  | nil => simpa [course, after] using h name
  | cons c changes ih =>
    have hnext := ih (moments_last b states c) (chronological_moments hlast h c)
    rwa [course, ← List.append_assoc]

end

/-- An item that is moved into the box that it lies in comes to stand last if all of it is moved. -/
theorem keys_move_self {b : Boxes} (hb : b.Listed) (name item : String) (n : Int) :
    Table.keys ((b.move name name item n).box name) =
      if 0 < (b.box name).amount item ∧ (b.box name).amount item ≤ n then
        (Table.keys (b.box name)).erase item ++ [item]
      else Table.keys (b.box name) := by
  have hbox : (b.move name name item n).box name =
      ((b.box name).remove item n).add item ((b.box name).removable item n) := by
    rw [move, add, box_change, if_pos rfl, remove, box_change, if_pos rfl]
  have hlisted := hb name
  rw [hbox]
  generalize b.box name = h at hlisted
  have hpositive := Holdings.amount_nonneg hlisted item
  by_cases hnone : h.amount item ≤ 0 ∨ n ≤ 0
  · rw [Holdings.remove, if_pos hnone, Holdings.removable, if_pos hnone, Holdings.add,
      if_pos (Int.le_refl 0), if_neg (by omega)]
  · have hitem : item ∈ Table.keys h := (Holdings.mem_keys_iff hlisted).mpr (by omega)
    rw [Holdings.removable_eq hlisted, Holdings.add, if_neg (by omega), Holdings.remove,
      if_neg hnone, Table.keys_put]
    by_cases hpart : n < h.amount item
    · rw [if_pos hpart, Table.keys_put, if_pos hitem, if_pos hitem, if_neg (by omega)]
    · have hgone : item ∉ (Table.keys h).erase item := hlisted.once.not_mem_erase
      rw [if_neg hpart, Table.keys_erase, if_neg hgone, if_pos (by omega)]

/-- Boxes after any history that begins with empty ones. A removal or a move from them gives back
what is asked for, as far as it is there. The amounts in each box add up, each item is listed once
and with at least one piece, and the items stand in the order in which they last came to lie there;
so one that is moved into its own box stays in its place unless all of it is moved. -/
theorem history_adds_up (changes : List Change) :
    (∀ name item n, (after [] changes).returned (.remove name item n) =
      min (max n 0) (((after [] changes).box name).amount item)) ∧
    (∀ source target item n, (after [] changes).returned (.move source target item n) =
      min (max n 0) (((after [] changes).box source).amount item)) ∧
    (∀ name item, ((after [] changes).box name).amount item =
      tally (fun _ => added name item) [] changes + tally (movedIn name item) [] changes -
        tally (takenOut name item) [] changes) ∧
    (∀ name, ((after [] changes).box name).Listed ∧
      Chronological ([] :: course [] changes) name (Table.keys ((after [] changes).box name))) ∧
    ∀ name item n, Table.keys (((after [] changes).move name name item n).box name) =
      if 0 < ((after [] changes).box name).amount item ∧
          ((after [] changes).box name).amount item ≤ n then
        (Table.keys ((after [] changes).box name)).erase item ++ [item]
      else Table.keys ((after [] changes).box name) := by
  have hlisted : (after [] changes).Listed := Listed.empty.after changes
  refine ⟨fun name item n => Holdings.removable_eq (hlisted name) item n,
    fun source _ item n => Holdings.removable_eq (hlisted source) item n, fun name item => ?_,
    fun name => ⟨hlisted name, ?_⟩, fun name item n => keys_move_self hlisted name item n⟩
  · have hsum := amount_after Listed.empty changes name item
    simpa [Holdings.amount] using hsum
  · have hstart : ∀ name, Chronological [([] : Boxes)] name (Table.keys (box [] name)) :=
      fun name => ⟨by simp, .nil⟩
    exact chronological_course (by simp) hstart changes name

end Boxes

end Fabula

import Fabula.Proofs.Template
import Fabula.Yaml.Tree

/-!
Values that are made of others. Showing a value, and reading it as a node, follow its compounds;
both break off only at compounds that stand too deeply in each other, or at single values that they
cannot take, and these are found within the value.
-/

set_option autoImplicit false

namespace Fabula.Yaml

/-- The values that a compound is made of: those under the keys of a mapping, and the keys. -/
def Compound.members : Compound → List Value
  | .list items => items
  | .mapping es => es.flatMap fun e => [e.1, e.2]
  | .set vs => vs
  | .pair a b => [a, b]

theorem Compound.mem_mapping {es : List (Value × Value)} {v : Value} :
    v ∈ (mapping es).members ↔ ∃ e ∈ es, v = e.1 ∨ v = e.2 := by
  simp [members]

theorem Compound.mem_entry {es : List (Value × Value)} {e : Value × Value} {v : Value}
    (he : e ∈ es) (hv : v = e.1 ∨ v = e.2) : v ∈ (mapping es).members :=
  mem_mapping.mpr ⟨e, he, hv⟩

theorem Compound.mem_single {key body v : Value} (hv : v = key ∨ v = body) :
    v ∈ (mapping [(key, body)]).members :=
  mem_entry (List.mem_singleton_self (key, body)) hv

namespace Value

def Known (size : Nat) : Value → Prop
  | compound n => n < size
  | _ => True

/-- A value that is found in another one, so many compounds deep. -/
inductive Within (cs : Compounds) : Nat → Value → Value → Prop where
  | self (v : Value) : Within cs 0 v v
  | member {depth n : Nat} {c : Compound} {u v : Value} : cs[n]? = some c → u ∈ c.members →
      Within cs depth u v → Within cs (depth + 1) (.compound n) v

/-- A value in which nothing stands. -/
inductive Vacant (cs : Compounds) : Value → Prop where
  | null : Vacant cs null
  | no : Vacant cs (truth false)
  | zero : Vacant cs (integer 0)
  | float {x : Decimal.Binary64} : x.integer? = some 0 → Vacant cs (float x)
  | text : Vacant cs (text [])
  | octets : Vacant cs (octets [])
  | compound {n : Nat} {c : Compound} : cs[n]? = some c → c.members = [] → Vacant cs (compound n)

/-- Why a value breaks off that is followed through so many compounds. -/
inductive Unfit (cs : Compounds) (deepest : Nat) (v : Value) : Breakdown → Prop where
  /-- An integer in it has more digits than are written. -/
  | tooLong {depth : Nat} {i : Int} : Within cs depth v (.integer i) → Text.tooLong ≤ i.natAbs →
      Unfit cs deepest v .tooLong
  /-- Compounds stand in it too deeply. -/
  | endless {depth n : Nat} : deepest ≤ depth → Within cs depth v (.compound n) →
      Unfit cs deepest v .endless
  /-- A mapping in it has, for children, something that has no parts. -/
  | noParts {depth n : Nat} {es : List (Value × Value)} {key u : Value} :
      Within cs depth v (.compound n) → cs[n]? = some (.mapping es) → (key, u) ∈ es →
      key.isText "children" = true → u.parts? cs = none → Unfit cs deepest v .noParts

end Value

def Compounds.Closed (cs : Compounds) : Prop := ∀ c ∈ cs, ∀ v ∈ c.members, v.Known cs.size

def Value.IsPair (cs : Compounds) (v : Value) : Prop := ∃ a b, v.compound? cs = some (.pair a b)

/-- Keys, and what is in a set, are values that cannot change; each key is written once, and not
with a pair, which can stand in a list only. -/
def Compound.Proper (cs : Compounds) : Compound → Prop
  | mapping es => (∀ e ∈ es, e.1.canBeKey = true ∧ ¬e.2.IsPair cs) ∧
      es.Pairwise fun e e' => Value.sameKey e.1 e'.1 = false
  | set vs => ∀ v ∈ vs, v.canBeKey = true
  | list _ | pair .. => True

def Compounds.Proper (cs : Compounds) : Prop := ∀ c ∈ cs, c.Proper cs

section

variable {cs : Compounds} {deepest depth n : Nat} {c : Compound} {u v : Value} {b : Breakdown}

theorem Compounds.Closed.member (hcs : cs.Closed) (hc : cs[n]? = some c) (hu : u ∈ c.members) :
    u.Known cs.size :=
  hcs c (Array.mem_of_getElem? hc) u hu

namespace Value

theorem Known.compound (h : (compound n).Known cs.size) : ∃ c, cs[n]? = some c :=
  ⟨cs[n], Array.getElem?_eq_getElem h⟩

theorem Within.trans {further : Nat} {w : Value} (h : Within cs depth v u)
    (hfurther : Within cs further u w) : Within cs (further + depth) v w := by
  induction h with
  | self => exact hfurther
  | member hc hu _ ih => exact .member hc hu (ih hfurther)

theorem Unfit.within (h : u.Unfit cs deepest b) (hu : Within cs depth v u) :
    v.Unfit cs (deepest + depth) b := by
  cases h with
  | tooLong hwithin hlong => exact .tooLong (hu.trans hwithin) hlong
  | endless hdeep hwithin => exact .endless (Nat.add_le_add_right hdeep depth) (hu.trans hwithin)
  | noParts hwithin hes he hkey hparts => exact .noParts (hu.trans hwithin) hes he hkey hparts

theorem Unfit.member (hc : cs[n]? = some c) (hu : u ∈ c.members) (h : u.Unfit cs deepest b) :
    (compound n).Unfit cs (deepest + 1) b :=
  h.within (.member hc hu (.self u))

theorem Unfit.mono {deepest' : Nat} (h : v.Unfit cs deepest b) (hle : deepest' ≤ deepest) :
    v.Unfit cs deepest' b := by
  cases h with
  | tooLong hwithin hlong => exact .tooLong hwithin hlong
  | endless hdeep hwithin => exact .endless (Nat.le_trans hle hdeep) hwithin
  | noParts hwithin hes he hkey hparts => exact .noParts hwithin hes he hkey hparts

theorem shownAlone_error (h : v.shownAlone = .error b) :
    v.Unfit cs deepest b ∨ (∃ n, v = compound n) ∧ b = .endless := by
  cases v with
  | integer i =>
    rw [shownAlone] at h
    split at h
    · cases h
    · next hlong =>
      obtain rfl := Except.error.inj h
      exact .inl (.tooLong (.self _) (Nat.le_of_not_lt hlong))
  | compound n => exact .inr ⟨⟨n, rfl⟩, (Except.error.inj h).symm⟩
  | _ => cases h

theorem shownWithin_error (hcs : cs.Closed) {begun : List Nat} (hv : v.Known cs.size)
    (h : shownWithin cs depth begun v = .error b) : v.Unfit cs depth b := by
  induction depth generalizing begun v b with
  | zero =>
    rw [shownWithin] at h
    · rcases shownAlone_error h with hunfit | ⟨⟨n, rfl⟩, rfl⟩
      · exact hunfit
      · exact .endless (Nat.le_refl 0) (.self _)
    · simp
  | succ depth ih =>
    cases v with
    | compound n =>
      obtain ⟨c, hc⟩ := hv.compound
      have hmember : ∀ u ∈ c.members, shownWithin cs depth (n :: begun) u = .error b →
          (compound n).Unfit cs (depth + 1) b :=
        fun u hu hshown => (ih (hcs.member hc hu) hshown).member hc hu
      rw [shownWithin, hc] at h
      generalize begun.contains n = again at h
      cases again with
      | true => cases h
      | false =>
        cases c with
        | list items =>
          obtain ⟨u, hu, hshown⟩ := exists_of_mapM_error (error_of_bind_pure h)
          exact hmember u hu hshown
        | mapping es =>
          obtain ⟨e, he, hshown⟩ := exists_of_mapM_error (error_of_bind_pure h)
          rcases bind_error hshown with hkey | ⟨_, -, hrest⟩
          · exact hmember e.1 (Compound.mem_entry he (.inl rfl)) hkey
          · exact hmember e.2 (Compound.mem_entry he (.inr rfl)) (error_of_bind_pure hrest)
        | set vs =>
          cases vs with
          | nil => cases h
          | cons first rest =>
            obtain ⟨u, hu, hshown⟩ := exists_of_mapM_error (error_of_bind_pure h)
            exact hmember u hu hshown
        | pair first second =>
          rcases bind_error h with hfirst | ⟨_, -, hrest⟩
          · exact hmember first (by simp [Compound.members]) hfirst
          · exact hmember second (by simp [Compound.members]) (error_of_bind_pure hrest)
    | _ =>
      rcases shownAlone_error h with hunfit | ⟨⟨n, hn⟩, -⟩
      · exact hunfit
      · cases hn

theorem shown_error (hcs : cs.Closed) (hv : v.Known cs.size) (h : v.shown cs deepest = .error b) :
    v.Unfit cs deepest b :=
  shownWithin_error hcs hv h

theorem shownWithin_noParts (begun : List Nat) (v : Value) :
    shownWithin cs depth begun v ≠ .error .noParts := by
  have halone : ∀ v : Value, v.shownAlone ≠ .error .noParts := by
    intro v h
    have hcases : v.Unfit #[] 0 .noParts ∨ _ := shownAlone_error h
    rcases hcases with hunfit | ⟨-, hb⟩
    · cases hunfit with
      | noParts _ hes => cases hes
    · cases hb
  intro h
  induction depth generalizing begun v with
  | zero =>
    rw [shownWithin] at h
    · exact halone v h
    · simp
  | succ depth ih =>
    cases v with
    | compound n =>
      rw [shownWithin] at h
      split at h
      · cases h
      · cases h
      · dsimp only at h
        split at h
        · obtain ⟨u, -, hu⟩ := exists_of_mapM_error (error_of_bind_pure h)
          exact ih _ u hu
        · obtain ⟨e, -, he⟩ := exists_of_mapM_error (error_of_bind_pure h)
          rcases bind_error he with hkey | ⟨_, -, hrest⟩
          · exact ih _ e.1 hkey
          · exact ih _ e.2 (error_of_bind_pure hrest)
        · cases h
        · obtain ⟨u, -, hu⟩ := exists_of_mapM_error (error_of_bind_pure h)
          exact ih _ u hu
        · rcases bind_error h with hfirst | ⟨_, -, hrest⟩
          · exact ih _ _ hfirst
          · exact ih _ _ (error_of_bind_pure hrest)
    | _ => exact halone _ h

theorem plain_error (h : v.plain cs deepest = .error b) : v.shown cs deepest = .error b := by
  cases v with
  | text s => cases h
  | time t => cases h
  | _ => exact error_of_map h

theorem scalarText_error (h : v.scalarText cs deepest = .error b) :
    v.shown cs deepest = .error b := by
  cases v with
  | null => cases h
  | truth t => cases h
  | _ => exact plain_error h

theorem compound?_eq_some : v.compound? cs = some c ↔ ∃ n, v = compound n ∧ cs[n]? = some c := by
  cases v <;> simp [compound?]

theorem parts?_cases {us : List Value} (h : v.parts? cs = some us) (hu : u ∈ us) :
    (∃ n c, v = compound n ∧ cs[n]? = some c ∧ u ∈ c.members) ∨ (∃ s, u = text s) ∨
      ∃ o : UInt8, u = integer o.toNat := by
  cases v with
  | compound n =>
    rw [parts?] at h
    cases hc : cs[n]? with
    | none => simp [hc] at h
    | some c =>
      refine .inl ⟨n, c, rfl, hc, ?_⟩
      simp only [hc] at h
      cases c with
      | list items | set vs =>
        obtain rfl := Option.some.inj h
        exact hu
      | mapping es =>
        obtain rfl := Option.some.inj h
        obtain ⟨e, he, rfl⟩ := List.mem_map.mp hu
        exact Compound.mem_entry he (.inl rfl)
      | pair first second =>
        obtain rfl := Option.some.inj h
        exact hu
  | text s =>
    obtain rfl := Option.some.inj h
    obtain ⟨p, -, rfl⟩ := List.mem_map.mp hu
    exact .inr (.inl ⟨_, rfl⟩)
  | octets os =>
    obtain rfl := Option.some.inj h
    obtain ⟨o, -, rfl⟩ := List.mem_map.mp hu
    exact .inr (.inr ⟨o, rfl⟩)
  | null | truth | integer | float =>
    have hempty : us = [] := by
      revert h
      simp +contextual [parts?, eq_comm]
    simp [hempty] at hu
  | noNumber | time => cases h

theorem parts?_compound (hc : cs[n]? = some c) :
    (compound n).parts? cs = some [] ↔ c.members = [] := by
  cases c with
  | mapping es =>
    cases es with
    | nil => simp [parts?, hc, Compound.members]
    | cons e es => simp [parts?, hc, Compound.members]
  | _ => simp [parts?, hc, Compound.members]

theorem parts?_eq_nil : v.parts? cs = some [] ↔ v.Vacant cs := by
  constructor
  · intro h
    cases v with
    | null => exact .null
    | truth b =>
      cases b with
      | false => exact .no
      | true => cases h
    | integer i =>
      by_cases hi : i = 0
      · exact hi ▸ .zero
      · simp [parts?, hi] at h
    | float x =>
      by_cases hx : x.integer? = some 0
      · exact .float hx
      · simp [parts?, hx] at h
    | text s =>
      obtain rfl : s = [] := by simpa [parts?] using h
      exact .text
    | octets os =>
      obtain rfl : os = [] := by simpa [parts?] using h
      exact .octets
    | noNumber | time => cases h
    | compound n =>
      cases hc : cs[n]? with
      | none => simp [parts?, hc] at h
      | some c => exact .compound hc ((parts?_compound hc).mp h)
  · intro h
    cases h with
    | float hx => simp [parts?, hx]
    | compound hc hnone => exact (parts?_compound hc).mpr hnone
    | _ => rfl

end Value

end

namespace Tree

open Value (Unfit Within)

section

variable {cs : Compounds} {deepestShown depth n : Nat} {u v : Value} {b : Breakdown}

theorem error_of_unlessBroken {α : Type} {x : Except Breakdown α}
    (h : unlessBroken x = .error (.breakdown b)) : x = .error b := by
  cases x with
  | error b' =>
    obtain rfl := Refusal.breakdown.inj (Except.error.inj h)
    rfl
  | ok a => cases h

theorem childValues_error {r : Refusal} (h : childValues cs v = .error r) :
    v.parts? cs = none ∧ r = .breakdown .noParts := by
  rw [childValues] at h
  split at h
  · cases h
  · next hparts => exact ⟨hparts, (Except.error.inj h).symm⟩

theorem childValues_ok {us : List Value} (h : childValues cs v = .ok us) :
    v.parts? cs = some us := by
  rw [childValues] at h
  split at h
  · next hparts => exact hparts.trans (congrArg some (Except.ok.inj h))
  · cases h

inductive EntryBreaks (cs : Compounds) (deepestShown : Nat) (child : Value → Except Refusal Tree)
    (e : Value × Value) (b : Breakdown) : Prop where
  | noParts : e.1.isText "children" = true → e.2.parts? cs = none → b = .noParts →
      EntryBreaks cs deepestShown child e b
  | child {us : List Value} {u : Value} : e.2.parts? cs = some us → u ∈ us →
      child u = .error (.breakdown b) → EntryBreaks cs deepestShown child e b
  | shown {v : Value} : v = e.1 ∨ v = e.2 → v.shown cs deepestShown = .error b →
      EntryBreaks cs deepestShown child e b

theorem withEntries_error {child : Value → Except Refusal Tree} {es : List (Value × Value)}
    {m : Tree} (h : withEntries cs deepestShown child es m = .error (.breakdown b)) :
    ∃ e ∈ es, EntryBreaks cs deepestShown child e b := by
  induction es generalizing m with
  | nil => cases h
  | cons e es ih =>
    obtain ⟨key, v⟩ := e
    have hrest {m : Tree} (hes : withEntries cs deepestShown child es m = .error (.breakdown b)) :
        ∃ e ∈ (key, v) :: es, EntryBreaks cs deepestShown child e b := by
      obtain ⟨e, he, hcause⟩ := ih hes
      exact ⟨e, List.mem_cons_of_mem _ he, hcause⟩
    rw [withEntries] at h
    split at h
    · next hchildren =>
      rcases bind_error h with hnone | ⟨us, hus, hmapped⟩
      · obtain ⟨hparts, hb⟩ := childValues_error hnone
        exact ⟨(key, v), by simp, .noParts hchildren hparts (Refusal.breakdown.inj hb)⟩
      · rcases bind_error hmapped with hmap | ⟨children, -, hes⟩
        · obtain ⟨u, hu, hchild⟩ := exists_of_mapM_error hmap
          exact ⟨(key, v), by simp, .child (childValues_ok hus) hu hchild⟩
        · exact hrest hes
    · rcases bind_error h with htext | ⟨text, -, hnext⟩
      · exact ⟨(key, v), by simp, .shown (.inr rfl)
          (Value.scalarText_error (error_of_unlessBroken htext))⟩
      · split at hnext
        · exact hrest hnext
        · rcases bind_error hnext with hname | ⟨name, -, hes⟩
          · exact ⟨(key, v), by simp, .shown (.inl rfl)
              (Value.plain_error (error_of_unlessBroken hname))⟩
          · exact hrest hes

inductive NodeBreaks (cs : Compounds) (deepestShown : Nat) (child : Value → Except Refusal Tree)
    (v : Value) (b : Breakdown) : Prop where
  | whole : v.shown cs deepestShown = .error b → NodeBreaks cs deepestShown child v b
  | shown {key body u : Value} : v.compound? cs = some (.mapping [(key, body)]) →
      u = key ∨ u = body → u.shown cs deepestShown = .error b → NodeBreaks cs deepestShown child v b
  | item {key body u : Value} {items : List Value} :
      v.compound? cs = some (.mapping [(key, body)]) → body.compound? cs = some (.list items) →
      u ∈ items → child u = .error (.breakdown b) → NodeBreaks cs deepestShown child v b
  | entry {key body : Value} {es : List (Value × Value)} {e : Value × Value} :
      v.compound? cs = some (.mapping [(key, body)]) → body.compound? cs = some (.mapping es) →
      e ∈ es → EntryBreaks cs deepestShown child e b → NodeBreaks cs deepestShown child v b

theorem ofValueWithin_breaks
    (h : ofValueWithin cs deepestShown (depth + 1) v = .error (.breakdown b)) :
    NodeBreaks cs deepestShown (ofValueWithin cs deepestShown depth) v b := by
  rw [ofValueWithin] at h
  split at h
  · next key body hv =>
    have hname (h : unlessBroken (key.plain cs deepestShown) = .error (.breakdown b)) :
        NodeBreaks cs deepestShown (ofValueWithin cs deepestShown depth) v b :=
      .shown hv (.inl rfl) (Value.plain_error (error_of_unlessBroken h))
    dsimp only at h
    split at h
    · next es hes =>
      rcases bind_error h with hentries | ⟨_, -, hrest⟩
      · obtain ⟨e, he, hbreaks⟩ := withEntries_error hentries
        exact .entry hv hes he hbreaks
      · exact hname (error_of_bind_pure hrest)
    · next items hitems =>
      rcases bind_error h with hkey | ⟨_, -, hrest⟩
      · exact hname hkey
      · obtain ⟨u, hu, hchild⟩ := exists_of_mapM_error (error_of_bind_pure hrest)
        exact .item hv hitems hu hchild
    · rcases bind_error h with hkey | ⟨_, -, hrest⟩
      · exact hname hkey
      · exact .shown hv (.inr rfl)
          (Value.scalarText_error (error_of_unlessBroken (error_of_bind_pure hrest)))
  · rcases bind_error h with hshown | ⟨_, -, hflaw⟩
    · exact .whole (error_of_unlessBroken hshown)
    · cases hflaw

theorem not_unfit_piece {deepest : Nat}
    (hv : (∃ s, v = .text s) ∨ ∃ o : UInt8, v = .integer o.toNat) : ¬v.Unfit cs deepest b := by
  intro h
  rcases hv with ⟨s, rfl⟩ | ⟨o, rfl⟩
  · cases h with
    | tooLong hwithin | endless _ hwithin | noParts hwithin => cases hwithin
  · cases h with
    | tooLong hwithin hlong =>
      cases hwithin
      have hfew := o.toNat_lt
      have hmany : 256 < Text.tooLong := by decide +kernel
      omega
    | endless _ hwithin | noParts hwithin => cases hwithin

section

variable {child : Value → Except Refusal Tree} {least : Nat}

/-- A child that breaks off is too deep itself, or it is unfit; then so is what it is found in. -/
theorem unfit_of_child {c : Compound} (hwithin : Within cs (depth + 1) v (.compound n))
    (hc : cs[n]? = some c) (hu : u ∈ c.members)
    (h : b = .endless ∧ least ≤ 1 ∨ u.Unfit cs (least - 2) b) : v.Unfit cs least b := by
  rcases h with ⟨rfl, hleast⟩ | hunfit
  · exact .endless (by omega) hwithin
  · exact (hunfit.within (hwithin.trans (.member hc hu (.self u)))).mono (by omega)

theorem EntryBreaks.unfit {es : List (Value × Value)} {e : Value × Value}
    (h : EntryBreaks cs deepestShown child e b) (hcs : cs.Closed) (hleast : least ≤ deepestShown)
    (hchild : ∀ u, u.Known cs.size → child u = .error (.breakdown b) →
      b = .endless ∧ least ≤ 1 ∨ u.Unfit cs (least - 2) b)
    (hbody : Within cs 1 v (.compound n)) (hes : cs[n]? = some (.mapping es)) (he : e ∈ es) :
    v.Unfit cs least b := by
  cases h with
  | noParts hkey hparts hb =>
    subst hb
    exact .noParts hbody hes he hkey hparts
  | @child us u hparts hu hbroken =>
    rcases Value.parts?_cases hparts hu with ⟨k, c, hk, hc, hmem⟩ | hpiece
    · have hvalue := hbody.trans (.member hes (Compound.mem_entry he (.inr hk.symm)) (.self _))
      have hknown : u.Known cs.size := hcs.member hc hmem
      exact unfit_of_child hvalue hc hmem (hchild u hknown hbroken)
    · have hknown : u.Known cs.size := by
        rcases hpiece with ⟨s, rfl⟩ | ⟨o, rfl⟩ <;> trivial
      rcases hchild u hknown hbroken with ⟨rfl, hfew⟩ | hunfit
      · exact .endless hfew hbody
      · exact absurd hunfit (not_unfit_piece hpiece)
  | shown hu hbroken =>
    have hmem := Compound.mem_entry he hu
    have hunfit := Value.shown_error hcs (hcs.member hes hmem) hbroken
    exact (hunfit.within (hbody.trans (.member hes hmem (.self _)))).mono (by omega)

theorem NodeBreaks.unfit (h : NodeBreaks cs deepestShown child v b) (hcs : cs.Closed)
    (hv : v.Known cs.size) (hleast : least ≤ deepestShown)
    (hchild : ∀ u, u.Known cs.size → child u = .error (.breakdown b) →
      b = .endless ∧ least ≤ 1 ∨ u.Unfit cs (least - 2) b) : v.Unfit cs least b := by
  cases h with
  | whole hbroken => exact (Value.shown_error hcs hv hbroken).mono hleast
  | shown hc hu hbroken =>
    obtain ⟨n, rfl, hn⟩ := Value.compound?_eq_some.mp hc
    have hmem := Compound.mem_single hu
    have hunfit := Value.shown_error hcs (hcs.member hn hmem) hbroken
    exact (hunfit.member hn hmem).mono (by omega)
  | @item key body u items hc hitems hu hbroken =>
    obtain ⟨n, rfl, hn⟩ := Value.compound?_eq_some.mp hc
    obtain ⟨m, rfl, hm⟩ := Value.compound?_eq_some.mp hitems
    have hbody : Within cs 1 (.compound n) (.compound m) :=
      .member hn (Compound.mem_single (.inr rfl)) (.self _)
    exact unfit_of_child hbody hm hu (hchild u (hcs.member hm hu) hbroken)
  | entry hc hes he hentry =>
    obtain ⟨n, rfl, hn⟩ := Value.compound?_eq_some.mp hc
    obtain ⟨m, rfl, hm⟩ := Value.compound?_eq_some.mp hes
    have hbody : Within cs 1 (.compound n) (.compound m) :=
      .member hn (Compound.mem_single (.inr rfl)) (.self _)
    exact hentry.unfit hcs hleast hchild hbody hm he

end

/-- A value that breaks off as a node, so many nodes deep, has something in it that it breaks off
at: every node takes two compounds, one for itself and one for its children. -/
theorem ofValueWithin_error (hcs : cs.Closed) (hv : v.Known cs.size)
    (h : ofValueWithin cs deepestShown depth v = .error (.breakdown b)) :
    depth = 0 ∧ b = .endless ∨ v.Unfit cs (min deepestShown (2 * depth - 1)) b := by
  induction depth generalizing v b with
  | zero => exact .inl ⟨rfl, (Refusal.breakdown.inj (Except.error.inj h)).symm⟩
  | succ depth ih =>
    refine .inr ((ofValueWithin_breaks h).unfit hcs hv (Nat.min_le_left ..) fun u hu hbroken => ?_)
    rcases ih hu hbroken with ⟨rfl, rfl⟩ | hunfit
    · exact .inl ⟨rfl, by omega⟩
    · exact .inr (hunfit.mono (by omega))

end

end Tree

end Fabula.Yaml

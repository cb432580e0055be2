import Fabula.Document
import Fabula.Proofs.Compound

set_option autoImplicit false

namespace Fabula

namespace Yaml

theorem Value.Known.mono {v : Value} {size size' : Nat} (h : v.Known size) (hle : size ≤ size') :
    v.Known size' := by
  cases v with
  | compound n => exact Nat.lt_of_lt_of_le h hle
  | _ => trivial

theorem Compounds.Closed.push {cs : Compounds} {c : Compound} (h : cs.Closed)
    (hc : ∀ v ∈ c.members, v.Known (cs.size + 1)) : Compounds.Closed (cs.push c) := by
  intro c' hc' v hv
  rw [Array.size_push]
  rcases Array.mem_push.mp hc' with hold | rfl
  · exact (h c' hold v hv).mono (Nat.le_succ _)
  · exact hc v hv

theorem Compounds.Closed.set {cs : Compounds} {c : Compound} (h : cs.Closed) (n : Nat)
    (hc : ∀ v ∈ c.members, v.Known cs.size) : Compounds.Closed (cs.setIfInBounds n c) := by
  intro c' hc' v hv
  rw [Array.size_setIfInBounds]
  rcases Array.mem_or_eq_of_mem_setIfInBounds hc' with hold | rfl
  · exact h c' hold v hv
  · exact hc v hv

/-- A compound stays proper where none of its values comes to name a pair. -/
theorem Compound.Proper.mono {cs cs' : Compounds} {c : Compound} (h : c.Proper cs)
    (hpairs : ∀ v ∈ c.members, v.IsPair cs' → v.IsPair cs) : c.Proper cs' := by
  cases c with
  | mapping es =>
    refine ⟨fun e he => ?_, h.2⟩
    obtain ⟨hkey, hpair⟩ := h.1 e he
    exact ⟨hkey, fun hpair' => hpair (hpairs _ (mem_entry he (.inr rfl)) hpair')⟩
  | _ => exact h

theorem Value.IsPair.of_push {cs : Compounds} {c : Compound} {v : Value} (hv : v.Known cs.size)
    (h : v.IsPair (cs.push c)) : v.IsPair cs := by
  obtain ⟨a, b, hpair⟩ := h
  cases v with
  | compound n =>
    have hold : (cs.push c)[n]? = cs[n]? :=
      (Array.getElem?_push_lt hv).trans (Array.getElem?_eq_getElem hv).symm
    exact ⟨a, b, hold.symm.trans hpair⟩
  | _ => cases hpair

theorem Value.IsPair.of_set {cs : Compounds} {number : Nat} {c : Compound} {v : Value}
    (hc : ∀ a b, c ≠ .pair a b) (h : v.IsPair (cs.setIfInBounds number c)) : v.IsPair cs := by
  obtain ⟨a, b, hpair⟩ := h
  cases v with
  | compound n =>
    have hfound : (cs.setIfInBounds number c)[n]? = some (.pair a b) := hpair
    rw [Array.getElem?_setIfInBounds] at hfound
    split at hfound
    · split at hfound
      · exact absurd (Option.some.inj hfound) (hc a b)
      · cases hfound
    · exact ⟨a, b, hfound⟩
  | _ => cases hpair

theorem Compounds.Proper.push {cs : Compounds} {c : Compound} (h : cs.Proper) (hcs : cs.Closed)
    (hc : c.Proper (cs.push c)) : Compounds.Proper (cs.push c) := by
  intro c' hc'
  rcases Array.mem_push.mp hc' with hold | rfl
  · exact (h c' hold).mono fun v hv => Value.IsPair.of_push (hcs c' hold v hv)
  · exact hc

theorem Compounds.Proper.set {cs : Compounds} {c : Compound} (h : cs.Proper) (number : Nat)
    (hc : c.Proper cs) (hpair : ∀ a b, c ≠ .pair a b) :
    Compounds.Proper (cs.setIfInBounds number c) := by
  intro c' hc'
  rcases Array.mem_or_eq_of_mem_setIfInBounds hc' with hold | rfl
  · exact (h c' hold).mono fun v _ => Value.IsPair.of_set hpair
  · exact hc.mono fun v _ => Value.IsPair.of_set hpair

namespace Value

section

variable {P Q : Value → Prop} {es : List (Value × Value)} {k v : Value}

theorem putEntry_all (hes : ∀ e ∈ es, P e.1 ∧ Q e.2) (hk : P k) (hv : Q v) :
    ∀ e ∈ putEntry k v es, P e.1 ∧ Q e.2 := by
  induction es with
  | nil => simp [putEntry, hk, hv]
  | cons e es ih =>
    rw [List.forall_mem_cons] at hes
    rw [putEntry]
    split
    · exact List.forall_mem_cons.mpr ⟨⟨hes.1.1, hv⟩, hes.2⟩
    · exact List.forall_mem_cons.mpr ⟨hes.1, ih hes.2⟩

theorem distinct_all (hes : ∀ e ∈ es, P e.1 ∧ Q e.2) : ∀ e ∈ distinct es, P e.1 ∧ Q e.2 := by
  have hfold : ∀ done : List (Value × Value), (∀ e ∈ done, P e.1 ∧ Q e.2) →
      ∀ e ∈ es.foldl (fun done e => putEntry e.1 e.2 done) done, P e.1 ∧ Q e.2 := by
    induction es with
    | nil => exact fun done hdone => hdone
    | cons e es ih =>
      rw [List.forall_mem_cons] at hes
      exact fun done hdone => ih hes.2 _ (putEntry_all hdone hes.1.1 hes.1.2)
  exact hfold [] (by simp)

end

theorem putEntry_pairwise {es : List (Value × Value)}
    (hes : es.Pairwise fun e e' => sameKey e.1 e'.1 = false) (k v : Value) :
    (putEntry k v es).Pairwise fun e e' => sameKey e.1 e'.1 = false := by
  induction es with
  | nil => exact List.pairwise_singleton ..
  | cons e es ih =>
    obtain ⟨hfirst, hrest⟩ := List.pairwise_cons.mp hes
    rw [putEntry]
    split
    · exact List.pairwise_cons.mpr ⟨hfirst, hrest⟩
    · next hother =>
      have hlater := putEntry_all (P := fun key => sameKey e.1 key = false) (Q := fun _ => True)
        (k := k) (v := v) (fun e' he' => ⟨hfirst e' he', trivial⟩) (Bool.eq_false_iff.mpr hother)
        trivial
      exact List.pairwise_cons.mpr ⟨fun e' he' => (hlater e' he').1, ih hrest⟩

theorem distinct_pairwise (es : List (Value × Value)) :
    (distinct es).Pairwise fun e e' => sameKey e.1 e'.1 = false :=
  List.foldlRecOn es _ .nil fun _ hdone e _ => putEntry_pairwise hdone e.1 e.2

theorem not_isPair_of_canBeKey {v : Value} (h : v.canBeKey = true) (cs : Compounds) :
    ¬v.IsPair cs := by
  rintro ⟨a, b, hpair⟩
  cases v with
  | compound n => cases h
  | _ => cases hpair

theorem known_of_canBeKey {v : Value} (h : v.canBeKey = true) (size : Nat) : v.Known size := by
  cases v with
  | compound n => cases h
  | _ => trivial

theorem ok_of_broken {e : Except Breakdown Value} {v : Value} (h : broken e = .ok v) :
    e = .ok v := by
  cases e with
  | error b => cases h
  | ok w => exact congrArg Except.ok (Except.ok.inj h)

theorem ofTruth_canBeKey {s : String} {v : Value} (h : ofTruth s = .ok v) : v.canBeKey = true := by
  rw [ofTruth] at h
  split at h
  · obtain rfl := Except.ok.inj h
    rfl
  · cases h

theorem ofTime_canBeKey {s : String} {v : Value} (h : ofTime s = .ok v) : v.canBeKey = true := by
  rw [ofTime] at h
  split at h
  · split at h
    · obtain rfl := Except.ok.inj h
      rfl
    · cases h
  · cases h

theorem ofFloat_canBeKey {part : Nat} {s : String} {v : Value} (h : ofFloat part s = .ok v) :
    v.canBeKey = true := by
  obtain ⟨x, -, hx⟩ := bind_ok h
  split at hx <;> obtain rfl := Except.ok.inj hx <;> rfl

/-- What a text stands for is made of no other values. -/
theorem ofScalar_canBeKey {part : Nat} {tag : Tag} {w : Text.Wide} {v : Value}
    (h : ofScalar part tag w = .ok v) : v.canBeKey = true := by
  cases tag with
  | null | text =>
    obtain rfl := Except.ok.inj h
    rfl
  | truth => exact ofTruth_canBeKey (ok_of_broken h)
  | float => exact ofFloat_canBeKey (ok_of_broken h)
  | moment => exact ofTime_canBeKey (ok_of_broken h)
  | integer =>
    have hread := ok_of_broken h
    cases hn : Number.integer w.string with
    | error b => simp [hn, Except.map] at hread
    | ok n =>
      rw [hn] at hread
      obtain rfl := Except.ok.inj hread
      rfl
  | octets =>
    simp only [ofScalar] at h
    split at h
    · obtain rfl := Except.ok.inj h
      rfl
    · cases h
  | _ => cases h

end Value

namespace Making

/-- Nothing names a compound that is not there, no part stands for a pair, and the compounds are
proper. -/
structure Closed (m : Making) : Prop where
  values : ∀ v, some v ∈ m.values → v.Known m.compounds.size ∧ ¬v.IsPair m.compounds
  compounds : m.compounds.Closed
  proper : m.compounds.Proper

structure Grown (m m' : Making) : Prop where
  closed : m'.Closed
  size : m.compounds.size ≤ m'.compounds.size
  pairs : ∀ v : Value, v.Known m.compounds.size → v.IsPair m'.compounds → v.IsPair m.compounds

theorem Closed.grown {m : Making} (h : m.Closed) : Grown m m :=
  ⟨h, Nat.le_refl _, fun _ _ => id⟩

theorem Grown.trans {m m' m'' : Making} (h : Grown m m') (h' : Grown m' m'') : Grown m m'' :=
  ⟨h'.closed, Nat.le_trans h.size h'.size,
    fun v hv hpair => h.pairs v hv (h'.pairs v (hv.mono h.size) hpair)⟩

theorem start_closed (g : Graph) : (start g).Closed :=
  ⟨by simp [start], by simp [Compounds.Closed, start], by simp [Compounds.Proper, start]⟩

section

variable {m m' : Making}

theorem Closed.setValue (h : m.Closed) (n : Nat) {v : Value}
    (hv : v.Known m.compounds.size ∧ ¬v.IsPair m.compounds) {begun : List (Nat × Nat)} :
    { m with values := m.values.setIfInBounds n (some v), begun }.Closed := by
  refine ⟨fun w hw => ?_, h.compounds, h.proper⟩
  rcases Array.mem_or_eq_of_mem_setIfInBounds hw with hold | hnew
  · exact h.values w hold
  · obtain rfl := Option.some.inj hnew
    exact hv

theorem Closed.addCompound (h : m.Closed) {c : Compound}
    (hc : ∀ v ∈ c.members, v.Known m.compounds.size)
    (hproper : c.Proper (m.compounds.push c)) : Grown m (m.addCompound c).2 ∧
      (Value.compound (m.addCompound c).1).Known (m.addCompound c).2.compounds.size := by
  have hsize : (m.addCompound c).2.compounds.size = m.compounds.size + 1 := Array.size_push _
  refine ⟨⟨⟨fun v hv => ?_, ?_, h.proper.push h.compounds hproper⟩, by omega,
    fun v hv => Value.IsPair.of_push hv⟩, ?_⟩
  · obtain ⟨hknown, hpair⟩ := h.values v hv
    exact ⟨hknown.mono (by omega), fun hpair' => hpair (.of_push hknown hpair')⟩
  · exact h.compounds.push fun v hv => (hc v hv).mono (Nat.le_succ _)
  · rw [hsize]
    exact Nat.lt_succ_self _

theorem Grown.setCompound (h : Grown m m') (number : Nat) {c : Compound}
    (hc : ∀ v ∈ c.members, v.Known m'.compounds.size) (hproper : c.Proper m'.compounds)
    (hpair : ∀ a b, c ≠ .pair a b) : Grown m (m'.setCompound number c) := by
  have hsize : (m'.setCompound number c).compounds.size = m'.compounds.size :=
    Array.size_setIfInBounds
  refine ⟨⟨fun v hv => ?_, h.closed.compounds.set number hc,
    h.closed.proper.set number hproper hpair⟩, hsize ▸ h.size,
    fun v hv hpair' => h.pairs v hv (.of_set hpair hpair')⟩
  obtain ⟨hknown, hpair'⟩ := h.closed.values v hv
  exact ⟨hsize ▸ hknown, fun hset => hpair' (.of_set hpair hset)⟩

theorem scalarValue_canBeKey {n : Nat} {v : Value} (h : m.scalarValue n = .ok v) :
    v.canBeKey = true := by
  simp only [scalarValue] at h
  split at h
  · cases h
  · obtain ⟨text, -, hread⟩ := bind_ok h
    split at hread
    · cases hread
    · exact Value.ofScalar_canBeKey hread

theorem emptyCompound?_members {tag : Tag} {c : Compound} (h : emptyCompound? tag = some c) :
    c.members = [] := by
  cases tag <;> cases h <;> rfl

theorem emptyCompound?_proper {tag : Tag} {c : Compound} (h : emptyCompound? tag = some c) :
    (∀ cs, c.Proper cs) ∧ ∀ a b, c ≠ .pair a b := by
  cases tag <;> cases h <;> simp [Compound.Proper]

theorem value_grown {n : Nat} {v : Value} (hm : m.Closed) (h : m.value n = .ok (v, m')) :
    Grown m m' ∧ v.Known m'.compounds.size ∧ ¬v.IsPair m'.compounds := by
  rw [value] at h
  split at h
  · next w hw =>
    obtain ⟨rfl, rfl⟩ := Prod.mk.inj (Except.ok.inj h)
    refine ⟨hm.grown, hm.values w ?_⟩
    obtain hw := Option.join_eq_some_iff.mp hw
    exact Array.mem_of_getElem? hw
  · next c _ hc =>
    obtain ⟨rfl, rfl⟩ := Prod.mk.inj (Except.ok.inj h)
    obtain ⟨hproper, hother⟩ := emptyCompound?_proper hc
    obtain ⟨hgrown, hknown⟩ := hm.addCompound (c := c) (by simp [emptyCompound?_members hc])
      (hproper _)
    have hpair : ¬(Value.compound (m.addCompound c).1).IsPair (m.addCompound c).2.compounds := by
      rintro ⟨a, b, hpair⟩
      have hlast : (m.addCompound c).2.compounds[m.compounds.size]? = some c :=
        Array.getElem?_push_size
      exact hother a b (Option.some.inj (hlast.symm.trans hpair))
    exact ⟨⟨hgrown.closed.setValue n ⟨hknown, hpair⟩, hgrown.size, hgrown.pairs⟩, hknown, hpair⟩
  · obtain ⟨w, hw, hmade⟩ := bind_ok h
    obtain ⟨rfl, rfl⟩ := Prod.mk.inj (Except.ok.inj hmade)
    have hkey := scalarValue_canBeKey hw
    have hv : w.Known m.compounds.size ∧ ¬w.IsPair m.compounds :=
      ⟨Value.known_of_canBeKey hkey _, Value.not_isPair_of_canBeKey hkey _⟩
    exact ⟨⟨hm.setValue n hv, Nat.le_refl _, fun _ _ => id⟩, hv⟩

theorem items_grown {ns : List Nat} {vs : List Value} (hm : m.Closed)
    (h : m.items ns = .ok (vs, m')) : Grown m m' ∧ ∀ v ∈ vs, v.Known m'.compounds.size := by
  induction ns generalizing m vs with
  | nil =>
    obtain ⟨rfl, rfl⟩ := Prod.mk.inj (Except.ok.inj h)
    exact ⟨hm.grown, by simp⟩
  | cons n ns ih =>
    obtain ⟨⟨v, m₁⟩, hv, hrest⟩ := bind_ok h
    obtain ⟨⟨vs, m₂⟩, hvs, hmade⟩ := bind_ok hrest
    obtain ⟨rfl, rfl⟩ := Prod.mk.inj (Except.ok.inj hmade)
    obtain ⟨hfirst, hknown, -⟩ := value_grown hm hv
    obtain ⟨hlater, hall⟩ := ih hfirst.closed hvs
    exact ⟨hfirst.trans hlater, List.forall_mem_cons.mpr ⟨hknown.mono hlater.size, hall⟩⟩

theorem pairs_grown {ns : List Nat} {vs : List Value} (hm : m.Closed)
    (h : m.pairs ns = .ok (vs, m')) : Grown m m' ∧ ∀ v ∈ vs, v.Known m'.compounds.size := by
  induction ns generalizing m vs with
  | nil =>
    obtain ⟨rfl, rfl⟩ := Prod.mk.inj (Except.ok.inj h)
    exact ⟨hm.grown, by simp⟩
  | cons n ns ih =>
    rw [pairs] at h
    split at h
    · obtain ⟨⟨a, m₁⟩, ha, hrest⟩ := bind_ok h
      obtain ⟨⟨b, m₂⟩, hb, hrest⟩ := bind_ok hrest
      obtain ⟨⟨vs, m₃⟩, hvs, hmade⟩ := bind_ok hrest
      obtain ⟨rfl, rfl⟩ := Prod.mk.inj (Except.ok.inj hmade)
      obtain ⟨hfirst, hknown, -⟩ := value_grown hm ha
      obtain ⟨hsecond, hknown', -⟩ := value_grown hfirst.closed hb
      obtain ⟨hadded, hpair⟩ := hsecond.closed.addCompound (c := .pair a b)
        (by simp [Compound.members, hknown', hknown.mono hsecond.size]) trivial
      obtain ⟨hlater, hall⟩ := ih hadded.closed hvs
      exact ⟨((hfirst.trans hsecond).trans hadded).trans hlater,
        List.forall_mem_cons.mpr ⟨hpair.mono hlater.size, hall⟩⟩
    · cases h

theorem entries_grown {es : List (Nat × Nat)} {vs : List (Value × Value)} (hm : m.Closed)
    (h : m.entries es = .ok (vs, m')) : Grown m m' ∧ ∀ e ∈ vs, e.1.canBeKey = true ∧
      e.2.Known m'.compounds.size ∧ ¬e.2.IsPair m'.compounds := by
  induction es generalizing m vs with
  | nil =>
    obtain ⟨rfl, rfl⟩ := Prod.mk.inj (Except.ok.inj h)
    exact ⟨hm.grown, by simp⟩
  | cons e es ih =>
    obtain ⟨⟨key, m₁⟩, hkey, hrest⟩ := bind_ok h
    dsimp only at hrest
    split at hrest
    · cases hrest
    · next husable =>
      obtain ⟨⟨v, m₂⟩, hv, hrest⟩ := bind_ok hrest
      obtain ⟨⟨vs, m₃⟩, hvs, hmade⟩ := bind_ok hrest
      obtain ⟨rfl, rfl⟩ := Prod.mk.inj (Except.ok.inj hmade)
      obtain ⟨hfirst, -⟩ := value_grown hm hkey
      obtain ⟨hsecond, hknown, hpair⟩ := value_grown hfirst.closed hv
      obtain ⟨hlater, hall⟩ := ih hsecond.closed hvs
      exact ⟨(hfirst.trans hsecond).trans hlater, List.forall_mem_cons.mpr
        ⟨⟨by simpa using husable, hknown.mono hlater.size,
          fun hpair' => hpair (hlater.pairs v hknown hpair')⟩, hall⟩⟩

theorem mergedEntries_grown {n : Nat} {vs : List (Value × Value)} (hm : m.Closed)
    (h : m.mergedEntries n = .ok (vs, m')) : Grown m m' ∧ (∀ e ∈ vs, e.1.canBeKey = true ∧
      e.2.Known m'.compounds.size ∧ ¬e.2.IsPair m'.compounds) ∧
      vs.Pairwise fun e e' => Value.sameKey e.1 e'.1 = false := by
  obtain ⟨g, -, hrest⟩ := bind_ok h
  obtain ⟨⟨es, m₁⟩, hes, hmade⟩ := bind_ok hrest
  obtain ⟨rfl, rfl⟩ := Prod.mk.inj (Except.ok.inj hmade)
  have hmerged : { m with graph := g }.Closed := ⟨hm.values, hm.compounds, hm.proper⟩
  obtain ⟨hgrown, hall⟩ := entries_grown hmerged hes
  exact ⟨⟨hgrown.closed, hgrown.size, hgrown.pairs⟩,
    Value.distinct_all (P := fun key => key.canBeKey = true)
      (Q := fun v => v.Known _ ∧ ¬v.IsPair _) hall, Value.distinct_pairwise es⟩

theorem fill_grown {habits : Habits} {part : Nat × Nat} (hm : m.Closed)
    (h : m.fill habits part = .ok m') : Grown m m' := by
  obtain ⟨n, number⟩ := part
  simp only [fill] at h
  split at h
  · obtain ⟨⟨vs, m₁⟩, hvs, hmade⟩ := bind_ok h
    obtain rfl := Except.ok.inj hmade
    obtain ⟨hgrown, hall⟩ := items_grown hm hvs
    exact hgrown.setCompound number hall trivial (by simp)
  · obtain ⟨⟨vs, m₁⟩, hvs, hmade⟩ := bind_ok h
    obtain rfl := Except.ok.inj hmade
    obtain ⟨hgrown, hall⟩ := pairs_grown hm hvs
    exact hgrown.setCompound number hall trivial (by simp)
  · obtain ⟨⟨vs, m₁⟩, hvs, hmade⟩ := bind_ok h
    obtain rfl := Except.ok.inj hmade
    obtain ⟨hgrown, hall⟩ := pairs_grown hm hvs
    exact hgrown.setCompound number hall trivial (by simp)
  · obtain ⟨⟨es, m₁⟩, hes, hmade⟩ := bind_ok h
    obtain rfl := Except.ok.inj hmade
    obtain ⟨hgrown, hall, hdistinct⟩ := mergedEntries_grown hm hes
    refine hgrown.setCompound number (fun v hv => ?_)
      ⟨fun e he => ⟨(hall e he).1, (hall e he).2.2⟩, hdistinct⟩ (by simp)
    obtain ⟨e, he, rfl | rfl⟩ := Compound.mem_mapping.mp hv
    · exact Value.known_of_canBeKey (hall e he).1 _
    · exact (hall e he).2.1
  · obtain ⟨⟨es, m₁⟩, hes, hmade⟩ := bind_ok h
    obtain rfl := Except.ok.inj hmade
    obtain ⟨hgrown, hall, -⟩ := mergedEntries_grown hm hes
    have hkeys : ∀ v ∈ habits.ordered (es.map (·.1)), v.canBeKey = true := by
      intro v hv
      obtain ⟨e, he, rfl⟩ := List.mem_map.mp (habits.subset _ hv)
      exact (hall e he).1
    exact hgrown.setCompound number (fun v hv => Value.known_of_canBeKey (hkeys v hv) _) hkeys
      (by simp)
  · cases h

theorem foldlM_fill_grown {habits : Habits} {parts : List (Nat × Nat)} (hm : m.Closed)
    (h : parts.foldlM (fill habits) m = .ok m') : Grown m m' := by
  induction parts generalizing m with
  | nil =>
    obtain rfl := Except.ok.inj h
    exact hm.grown
  | cons part parts ih =>
    rw [List.foldlM_cons] at h
    obtain ⟨m₁, hfill, hrest⟩ := bind_ok h
    have hfirst := fill_grown hm hfill
    exact hfirst.trans (ih hfirst.closed hrest)

theorem rounds_grown {habits : Habits} {count : Nat} (hm : m.Closed)
    (h : m.rounds habits count = .ok m') : Grown m m' := by
  induction count generalizing m with
  | zero =>
    obtain rfl := Except.ok.inj h
    exact hm.grown
  | succ count ih =>
    rw [rounds] at h
    split at h
    · obtain rfl := Except.ok.inj h
      exact hm.grown
    · obtain ⟨m₁, hfill, hrest⟩ := bind_ok h
      have hemptied : Grown m { m with begun := [] } :=
        ⟨⟨hm.values, hm.compounds, hm.proper⟩, Nat.le_refl _, fun _ _ => id⟩
      have hfirst := hemptied.trans (foldlM_fill_grown hemptied.closed hfill)
      exact hfirst.trans (ih hfirst.closed hrest)

end

end Making

namespace Document

/-- A document is made of no compounds but its own, which are proper. -/
structure Whole (d : Document) : Prop where
  value : d.value.Known d.compounds.size
  compounds : d.compounds.Closed
  proper : d.compounds.Proper

theorem ofPart_whole {habits : Habits} {text : List Char} {behind : Option Fault} {d : Document}
    (h : ofPart habits text behind = .ok d) : d.Whole := by
  simp only [ofPart] at h
  split at h
  · cases h
  · obtain ⟨root?, -, hmeant⟩ := bind_ok h
    cases root? with
    | none =>
      obtain rfl := Except.ok.inj hmeant
      exact ⟨trivial, by simp [Compounds.Closed], by simp [Compounds.Proper]⟩
    | some root =>
      obtain ⟨⟨v, m⟩, hv, hrest⟩ := bind_ok hmeant
      obtain ⟨m', hrounds, hmade⟩ := bind_ok hrest
      obtain rfl := Except.ok.inj hmade
      obtain ⟨hgrown, hknown, -⟩ := Making.value_grown (Making.start_closed _) hv
      have hfilled := Making.rounds_grown hgrown.closed hrounds
      exact ⟨hknown.mono hfilled.size, hfilled.closed.compounds, hfilled.closed.proper⟩

theorem ofPortions_whole {habits : Habits} {text : List Char} {behind : Option Fault} {d : Document}
    (h : ofPortions habits text behind = .ok d) : d.Whole := by
  simp only [ofPortions] at h
  split at h <;> exact ofPart_whole h

theorem ofOctets_whole {habits : Habits} {octets : ByteArray} {d : Document}
    (h : ofOctets habits octets = .ok d) : d.Whole := by
  simp only [ofOctets] at h
  split at h
  · exact ofPortions_whole h
  · split at h
    · exact ofPortions_whole h
    · cases h

end Document

end Yaml

/-- Readers that give whole documents. All that is told of what is read is told of these. -/
structure SoundReaders extends Readers where
  whole : ∀ {text : List Char} {d : Yaml.Document}, yaml text = .ok d → d.Whole
  wholeFile : ∀ {octets : ByteArray} {d : Yaml.Document}, yamlFile octets = .ok d → d.Whole

def SoundReaders.usual : SoundReaders where
  toReaders := .usual
  whole := Yaml.Document.ofPart_whole
  wholeFile := Yaml.Document.ofOctets_whole

end Fabula

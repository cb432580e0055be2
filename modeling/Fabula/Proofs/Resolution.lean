import Fabula.Proofs.Conservation
import Fabula.Proofs.Words

/-!
Resolution of nouns. What a clause means is said without searching: the first thing of a listing
that a word means, where the clause says that it is looked for. A clause means exactly what is found
for it, and nothing is found only where nothing is meant.
-/

set_option autoImplicit false

namespace Fabula

/-- A word means a thing by its number in a listing, or by its name in any case. -/
def IsMeant (word : String) (number : Nat) (name : String) : Prop :=
  word = Text.decimal number ∨ Text.caseFold word = Text.caseFold name

theorem means_iff {word : String} {number : Nat} {name : String} :
    means word number name = true ↔ IsMeant word number name := by
  simp [means, Text.sameFolded, IsMeant]

/-- The first thing that a word means, where things have places and are numbered from `n` on. -/
structure FirstMeant {α : Type} (word : String) (n : Nat) (things : Nat → Option α)
    (name : α → String) (k : Nat) (x : α) : Prop where
  there : things k = some x
  meant : IsMeant word (n + k) (name x)
  first : ∀ j, j < k → ∀ y, things j = some y → ¬IsMeant word (n + j) (name y)

section

variable {α : Type} {word : String} {n : Nat} {things : Nat → Option α} {name : α → String}

theorem firstMeant_zero {x : α} : FirstMeant word n things name 0 x ↔
    things 0 = some x ∧ IsMeant word n (name x) :=
  ⟨fun h => ⟨h.there, h.meant⟩, fun h => ⟨h.1, h.2, fun _ hj => absurd hj (Nat.not_lt_zero _)⟩⟩

theorem firstMeant_succ {k : Nat} {x : α} : FirstMeant word n things name (k + 1) x ↔
    (∀ y, things 0 = some y → ¬IsMeant word n (name y)) ∧
    FirstMeant word (n + 1) (fun j => things (j + 1)) name k x := by
  have hnumber : ∀ j, n + 1 + j = n + (j + 1) := by omega
  constructor
  · intro h
    refine ⟨fun y hy => h.first 0 (Nat.succ_pos k) y hy, h.there, ?_, fun j hj y hy => ?_⟩
    · rw [hnumber]
      exact h.meant
    · rw [hnumber]
      exact h.first (j + 1) (Nat.succ_lt_succ hj) y hy
  · rintro ⟨hzero, hlater⟩
    refine ⟨hlater.there, by simpa only [hnumber] using hlater.meant, fun j hj y hy => ?_⟩
    cases j with
    | zero => exact hzero y hy
    | succ j => simpa only [hnumber] using hlater.first j (Nat.lt_of_succ_lt_succ hj) y hy

theorem exists_firstMeant {k : Nat} {x : α} (hx : things k = some x)
    (hm : IsMeant word (n + k) (name x)) : ∃ j y, FirstMeant word n things name j y := by
  -- What is meant at an earlier place leads to what is meant first.
  induction k using Nat.strongRecOn generalizing x with
  | ind k ih =>
    by_cases hearlier : ∃ j < k, ∃ y, things j = some y ∧ IsMeant word (n + j) (name y)
    · obtain ⟨j, hj, y, hy, hmeant⟩ := hearlier
      exact ih j hj hy hmeant
    · exact ⟨k, x, hx, hm, fun j hj y hy hmeant => hearlier ⟨j, hj, y, hy, hmeant⟩⟩

/-- The first thing meant is the first thing of all, or else one of the later ones. -/
theorem exists_firstMeant_iff (P : Nat → α → Prop) :
    (∃ k x, P k x ∧ FirstMeant word n things name k x) ↔
      (∃ x, P 0 x ∧ things 0 = some x ∧ IsMeant word n (name x)) ∨
      (∀ y, things 0 = some y → ¬IsMeant word n (name y)) ∧
        ∃ k x, P (k + 1) x ∧ FirstMeant word (n + 1) (fun j => things (j + 1)) name k x := by
  constructor
  · rintro ⟨k, x, hp, hx⟩
    cases k with
    | zero => exact .inl ⟨x, hp, firstMeant_zero.mp hx⟩
    | succ k => exact .inr ⟨(firstMeant_succ.mp hx).1, k, x, hp, (firstMeant_succ.mp hx).2⟩
  · rintro (⟨x, hp, hx⟩ | ⟨hzero, k, x, hp, hx⟩)
    · exact ⟨0, x, hp, firstMeant_zero.mpr hx⟩
    · exact ⟨k + 1, x, hp, firstMeant_succ.mpr ⟨hzero, hx⟩⟩

theorem placeMeant?_eq_some {l : List α} {m : Nat} :
    placeMeant? word n (l.map name) = some m ↔
      ∃ k x, m = n + k ∧ FirstMeant word n (l[·]?) name k x := by
  induction l generalizing n with
  | nil =>
    constructor
    · intro h
      cases h
    · rintro ⟨k, x, -, hx⟩
      cases hx.there
  | cons first l ih =>
    have hnumber : ∀ k, n + 1 + k = n + (k + 1) := by omega
    rw [exists_firstMeant_iff (fun k _ => m = n + k), List.map_cons, placeMeant?]
    by_cases hm : IsMeant word n (name first)
    · simp [means_iff.mpr hm, hm, eq_comm]
    · have hno : ¬means word n (name first) = true := fun h => hm (means_iff.mp h)
      rw [if_neg hno, ih]
      simp [hm, hnumber]

end

def NoneMeant {α : Type} (word : String) (n : Nat) (things : Nat → Option α) (name : α → String) :
    Prop :=
  ∀ k x, things k = some x → ¬IsMeant word (n + k) (name x)

theorem noneMeant_iff {α : Type} {word : String} {n : Nat} {things : Nat → Option α}
    {name : α → String} :
    NoneMeant word n things name ↔ ∀ k x, ¬FirstMeant word n things name k x := by
  constructor
  · intro h k x hx
    exact h k x hx.there hx.meant
  · intro h k x hx hmeant
    obtain ⟨j, y, hy⟩ := exists_firstMeant hx hmeant
    exact h j y hy

theorem firstMeant_or_none {α : Type} (word : String) (n : Nat) (things : Nat → Option α)
    (name : α → String) :
    (∃ k x, FirstMeant word n things name k x) ∨ NoneMeant word n things name := by
  rw [noneMeant_iff]
  by_cases h : ∃ k x, FirstMeant word n things name k x
  · exact .inl h
  · exact .inr fun k x hx => h ⟨k, x, hx⟩

namespace Surroundings

def itemAt? (s : Surroundings) (h : Holdings) (k : Nat) : Option Item :=
  h[k]?.bind fun row => s.items.get? row.1

variable {s : Surroundings} {word : String}

theorem itemMeant?_eq_some {n : Nat} {h : Holdings} {item : Item} :
    s.itemMeant? word n h = some item ↔
      ∃ k, FirstMeant word n (s.itemAt? h) Item.name k item := by
  have hasks : ∀ n (things : Nat → Option Item),
      (∃ k, FirstMeant word n things Item.name k item) ↔
        ∃ k x, x = item ∧ FirstMeant word n things Item.name k x := by
    intro n things
    simp
  induction h generalizing n with
  | nil =>
    constructor
    · intro h
      cases h
    · rintro ⟨k, hx⟩
      cases hx.there
  | cons row rest ih =>
    obtain ⟨id, amount⟩ := row
    have hnext : s.itemMeant? word (n + 1) rest = some item ↔
        ∃ k, FirstMeant word (n + 1) (s.itemAt? rest) Item.name k item := ih
    have hzero : s.itemAt? ((id, amount) :: rest) 0 = s.items.get? id := rfl
    have hlater : (fun j => s.itemAt? ((id, amount) :: rest) (j + 1)) = s.itemAt? rest := rfl
    rw [hasks, exists_firstMeant_iff (fun _ x => x = item), hzero, hlater, ← hasks, ← hnext,
      itemMeant?]
    simp only [exists_eq_left]
    cases hg : s.items.get? id with
    | none => simp -- An id without an item has its number all the same.
    | some found =>
      by_cases hm : IsMeant word n found.name
      · have hfound : found = item → IsMeant word n item.name := by
          rintro rfl
          exact hm
        simpa [means_iff.mpr hm, hm] using hfound
      · have hno : ¬means word n found.name = true := fun h => hm (means_iff.mp h)
        simp only [hno, if_false, Option.some.injEq, Bool.false_eq_true]
        constructor
        · intro h
          exact .inr ⟨fun y hy => hy ▸ hm, h⟩
        · rintro (⟨rfl, hitem⟩ | ⟨-, h⟩)
          · exact absurd hitem hm
          · exact h

theorem itemIn?_eq_some {place : Place} {item : Item} : s.itemIn? place word = some item ↔
    ∃ k, FirstMeant word 1 (s.itemAt? (s.holdings place)) Item.name k item :=
  itemMeant?_eq_some

theorem itemIn?_eq_none {place : Place} : s.itemIn? place word = none ↔
    NoneMeant word 1 (s.itemAt? (s.holdings place)) Item.name := by
  simp only [Option.eq_none_iff_forall_ne_some, ne_eq, itemIn?_eq_some, noneMeant_iff]
  grind

end Surroundings

theorem Area.fixture?_eq_some {area : Area} {word : String} {i : Nat} :
    area.fixture? word = some i ↔ ∃ f, FirstMeant word 1 (area.fixtures[·]?) Fixture.name i f := by
  rw [fixture?, Option.map_eq_some_iff]
  constructor
  · rintro ⟨m, hm, rfl⟩
    obtain ⟨k, f, rfl, hf⟩ := placeMeant?_eq_some.mp hm
    exact ⟨f, by simpa using hf⟩
  · rintro ⟨f, hf⟩
    exact ⟨1 + i, placeMeant?_eq_some.mpr ⟨i, f, rfl, hf⟩, by simp⟩

theorem Area.fixture?_eq_none {area : Area} {word : String} : area.fixture? word = none ↔
    NoneMeant word 1 (area.fixtures[·]?) Fixture.name := by
  simp only [Option.eq_none_iff_forall_ne_some, ne_eq, fixture?_eq_some, noneMeant_iff]
  grind

/-- The arguments of a clause: what is named, and the source if there is a `from`. It is the first
`from` that counts, in any case; later ones are words like others. -/
inductive Clause : List String → List String → Option (List String) → Prop where
  | whole {args : List String} : (∀ word ∈ args, Text.caseFold word ≠ "from") →
      Clause args args none
  | split {target source : List String} {marker : String} :
      (∀ word ∈ target, Text.caseFold word ≠ "from") → Text.caseFold marker = "from" →
      Clause (target ++ marker :: source) target (some source)

theorem isFrom_iff {word : String} : isFrom word = true ↔ Text.caseFold word = "from" := by
  simp [isFrom]

theorem exists_clause (args : List String) : ∃ target source, Clause args target source := by
  induction args with
  | nil => exact ⟨[], none, .whole (by simp)⟩
  | cons word args ih =>
    by_cases hfrom : Text.caseFold word = "from"
    · exact ⟨[], some args, @Clause.split [] args word (by simp) hfrom⟩
    · obtain ⟨target, source, hclause⟩ := ih
      cases hclause with
      | whole hplain => exact ⟨word :: args, none, .whole (by simpa using ⟨hfrom, hplain⟩)⟩
      | @split _ source marker hplain hmarker =>
        exact ⟨word :: target, some source,
          @Clause.split (word :: target) source marker (by simpa using ⟨hfrom, hplain⟩) hmarker⟩

theorem Clause.splitFrom {args target : List String} {source : Option (List String)}
    (h : Clause args target source) :
    splitFrom args = (Text.unwords target, source.map Text.unwords) := by
  have hplain : ∀ {words : List String}, (∀ word ∈ words, Text.caseFold word ≠ "from") →
      ∀ word ∈ words, (!isFrom word) = true := by
    intro words hwords word hword
    simpa [isFrom] using hwords word hword
  cases h with
  | whole hwords =>
    simp [Fabula.splitFrom, List.takeWhile_eq_self_iff.mpr (hplain hwords),
      List.dropWhile_eq_nil_iff.mpr (hplain hwords)]
  | @split _ _ marker hwords hmarker =>
    have hstop : (!isFrom marker) = false := by simpa using isFrom_iff.mpr hmarker
    rw [Fabula.splitFrom, List.takeWhile_append_of_pos (hplain hwords),
      List.dropWhile_append_of_pos (hplain hwords)]
    simp [hstop]

theorem Clause.target_whole {args target : List String} (h : Clause args target none) :
    target = args := by
  cases h
  rfl

theorem Clause.filled {args target source : List String} (h : Clause args target (some source))
    (hargs : "" ∉ args) : "" ∉ target ∧ "" ∉ source := by
  cases h with
  | split => simp_all

namespace Surroundings

variable {s : Surroundings} {args : List String} {word : String}

inductive IsSource (s : Surroundings) (word : String) : Place → Prop where
  | bag : Text.caseFold word = "bag" → IsSource s word .bag
  | fixture {area : Area} {i : Nat} {f : Fixture} : Text.caseFold word ≠ "bag" →
      s.area = some area → FirstMeant word 1 (area.fixtures[·]?) Fixture.name i f →
      IsSource s word (.fixture i)

inductive Refers (s : Surroundings) (args : List String) : Target → Prop where
  | taken {target source : List String} {place : Place} {k : Nat} {item : Item} :
      Clause args target (some source) → target ≠ [] → source ≠ [] →
      s.IsSource (Text.unwords source) place →
      FirstMeant (Text.unwords target) 1 (s.itemAt? (s.holdings place)) Item.name k item →
      Refers s args (.item item place)
  | loose {area : Area} {k : Nat} {item : Item} : Clause args args none → args ≠ [] →
      s.area = some area →
      FirstMeant (Text.unwords args) 1 (s.itemAt? area.items) Item.name k item →
      Refers s args (.item item .ground)
  | fixture {area : Area} {i : Nat} {f : Fixture} : Clause args args none → args ≠ [] →
      s.area = some area → NoneMeant (Text.unwords args) 1 (s.itemAt? area.items) Item.name →
      FirstMeant (Text.unwords args) 1 (area.fixtures[·]?) Fixture.name i f →
      Refers s args (.fixture i f)

inductive Meaningless (s : Surroundings) (args : List String) : Prop where
  | empty : args = [] → Meaningless s args
  | nowhere : Clause args args none → s.area = none → Meaningless s args
  | lopsided {target source : List String} : Clause args target (some source) →
      target = [] ∨ source = [] → Meaningless s args
  | sourceless {target source : List String} : Clause args target (some source) →
      Text.caseFold (Text.unwords source) ≠ "bag" →
      (∀ area, s.area = some area →
        NoneMeant (Text.unwords source) 1 (area.fixtures[·]?) Fixture.name) →
      Meaningless s args
  | absent {target source : List String} {place : Place} : Clause args target (some source) →
      s.IsSource (Text.unwords source) place →
      NoneMeant (Text.unwords target) 1 (s.itemAt? (s.holdings place)) Item.name →
      Meaningless s args
  | unseen {area : Area} : Clause args args none → s.area = some area →
      NoneMeant (Text.unwords args) 1 (s.itemAt? area.items) Item.name →
      NoneMeant (Text.unwords args) 1 (area.fixtures[·]?) Fixture.name → Meaningless s args

theorem source?_eq_some {place : Place} : s.source? word = some place ↔ s.IsSource word place := by
  rw [source?]
  by_cases hbag : Text.caseFold word = "bag"
  · rw [if_pos hbag, Option.some.injEq]
    constructor
    · rintro rfl
      exact .bag hbag
    · intro h
      cases h with
      | bag => rfl
      | fixture hother => exact absurd hbag hother
  · rw [if_neg hbag]
    constructor
    · intro h
      obtain ⟨i, hi, rfl⟩ := Option.map_eq_some_iff.mp h
      obtain ⟨area, harea, hfixture⟩ := Option.bind_eq_some_iff.mp hi
      obtain ⟨f, hf⟩ := Area.fixture?_eq_some.mp hfixture
      exact .fixture hbag harea hf
    · intro h
      cases h with
      | bag h => exact absurd h hbag
      | fixture _ harea hf => simp [harea, Area.fixture?_eq_some.mpr ⟨_, hf⟩]

theorem source?_eq_none : s.source? word = none ↔ Text.caseFold word ≠ "bag" ∧
    ∀ area, s.area = some area → NoneMeant word 1 (area.fixtures[·]?) Fixture.name := by
  rw [source?]
  by_cases hbag : Text.caseFold word = "bag"
  · simp [hbag]
  · simp [hbag, Option.bind_eq_none_iff, Area.fixture?_eq_none]

theorem target?_split {target source : List String} (h : Clause args target (some source))
    (hargs : "" ∉ args) : s.target? args =
      if target = [] ∨ source = [] then none
      else (s.source? (Text.unwords source)).bind fun place =>
        (s.itemIn? place (Text.unwords target)).map (.item · place) := by
  obtain ⟨htarget, hsource⟩ := h.filled hargs
  rw [target?, h.splitFrom]
  simp only [← Text.unwords_eq_empty htarget, ← Text.unwords_eq_empty hsource, Option.map_some]
  by_cases ht : Text.unwords target = ""
  · simp [ht]
  · by_cases hs : Text.unwords source = ""
    · simp [ht, hs]
    · simp only [ht, hs, or_self, if_false]
      cases s.source? (Text.unwords source) with
      | none => rfl
      | some place => cases hi : s.itemIn? place (Text.unwords target) <;> simp [hi]

theorem target?_whole (h : Clause args args none) (hargs : "" ∉ args) : s.target? args =
      if args = [] then none
      else ((s.itemIn? .ground (Text.unwords args)).map (.item · .ground)).or
        (s.fixtureTarget? (Text.unwords args)) := by
  rw [target?, h.splitFrom]
  simp only [← Text.unwords_eq_empty hargs, Option.map_none]
  by_cases ht : Text.unwords args = ""
  · simp [ht]
  · cases hi : s.itemIn? .ground (Text.unwords args) <;> simp [ht, hi]

theorem holdings_ground {area : Area} (h : s.area = some area) :
    s.holdings .ground = area.items := by
  simp [holdings, h]

theorem Refers.target? {t : Target} (h : s.Refers args t) (hargs : "" ∉ args) :
    s.target? args = some t := by
  cases h with
  | taken hclause htarget hsource hplace hitem =>
    rw [target?_split hclause hargs, if_neg (by simp [htarget, hsource]),
      source?_eq_some.mpr hplace, Option.bind_some, itemIn?_eq_some.mpr ⟨_, hitem⟩]
    rfl
  | loose hclause hne harea hitem =>
    rw [← holdings_ground harea] at hitem
    rw [target?_whole hclause hargs, if_neg hne, itemIn?_eq_some.mpr ⟨_, hitem⟩, Option.map_some,
      Option.some_or]
  | fixture hclause hne harea hnone hf =>
    rw [← holdings_ground harea] at hnone
    rw [target?_whole hclause hargs, if_neg hne, itemIn?_eq_none.mpr hnone]
    simp [fixtureTarget?, harea, Area.fixture?_eq_some.mpr ⟨_, hf⟩, hf.there]

theorem Meaningless.target? (h : s.Meaningless args) (hargs : "" ∉ args) :
    s.target? args = none := by
  cases h with
  | empty hempty =>
    rw [hempty]
    rfl
  | nowhere hclause hnone =>
    rw [target?_whole hclause hargs]
    simp [itemIn?, holdings, hnone, itemMeant?, fixtureTarget?]
  | lopsided hclause hempty => rw [target?_split hclause hargs, if_pos hempty]
  | sourceless hclause hbag hnone =>
    rw [target?_split hclause hargs, source?_eq_none.mpr ⟨hbag, hnone⟩]
    simp
  | absent hclause hplace hnone =>
    rw [target?_split hclause hargs, source?_eq_some.mpr hplace, Option.bind_some,
      itemIn?_eq_none.mpr hnone]
    simp
  | unseen hclause harea hnone hnoFixture =>
    rw [← holdings_ground harea] at hnone
    rw [target?_whole hclause hargs, itemIn?_eq_none.mpr hnone]
    simp [fixtureTarget?, harea, Area.fixture?_eq_none.mpr hnoFixture]

/-- Every clause refers to something, or has a reason to refer to nothing. -/
theorem refers_or_meaningless (s : Surroundings) (args : List String) :
    (∃ t, s.Refers args t) ∨ s.Meaningless args := by
  obtain ⟨target, source, hclause⟩ := exists_clause args
  cases source with
  | none =>
    obtain rfl := hclause.target_whole
    by_cases hempty : target = []
    · exact .inr (.empty hempty)
    · cases harea : s.area with
      | none => exact .inr (.nowhere hclause harea)
      | some area =>
        rcases firstMeant_or_none (Text.unwords target) 1 (s.itemAt? area.items) Item.name with
          ⟨k, item, hitem⟩ | hnone
        · exact .inl ⟨_, .loose hclause hempty harea hitem⟩
        · rcases firstMeant_or_none (Text.unwords target) 1 (area.fixtures[·]?) Fixture.name with
            ⟨i, f, hf⟩ | hnoFixture
          · exact .inl ⟨_, .fixture hclause hempty harea hnone hf⟩
          · exact .inr (.unseen hclause harea hnone hnoFixture)
  | some source =>
    by_cases hempty : target = [] ∨ source = []
    · exact .inr (.lopsided hclause hempty)
    · obtain ⟨htarget, hsource⟩ := not_or.mp hempty
      cases hplace : s.source? (Text.unwords source) with
      | none =>
        obtain ⟨hbag, hnone⟩ := source?_eq_none.mp hplace
        exact .inr (.sourceless hclause hbag hnone)
      | some place =>
        have hnamed := source?_eq_some.mp hplace
        rcases firstMeant_or_none (Text.unwords target) 1 (s.itemAt? (s.holdings place))
          Item.name with ⟨k, item, hitem⟩ | hnone
        · exact .inl ⟨_, .taken hclause htarget hsource hnamed hitem⟩
        · exact .inr (.absent hclause hnamed hnone)

theorem target?_eq_some (hargs : "" ∉ args) {t : Target} :
    s.target? args = some t ↔ s.Refers args t := by
  constructor
  · intro ht
    rcases s.refers_or_meaningless args with ⟨other, hother⟩ | hnone
    · rw [hother.target? hargs, Option.some.injEq] at ht
      exact ht ▸ hother
    · rw [hnone.target? hargs] at ht
      cases ht
  · intro h
    exact h.target? hargs

theorem target?_eq_none (hargs : "" ∉ args) : s.target? args = none ↔ s.Meaningless args := by
  constructor
  · intro hnone
    rcases s.refers_or_meaningless args with ⟨t, ht⟩ | h
    · rw [ht.target? hargs] at hnone
      cases hnone
    · exact h
  · intro h
    exact h.target? hargs

theorem target?_fixture (hargs : "" ∉ args) {p : Nat} {f : Fixture}
    (h : s.target? args = some (.fixture p f)) :
    ∃ area, s.area = some area ∧ area.fixtures[p]? = some f := by
  cases (target?_eq_some hargs).mp h with
  | fixture _ _ harea _ hf => exact ⟨_, harea, hf.there⟩

end Surroundings

theorem Line.empty_not_mem_args (text : String) : "" ∉ (Line.ofText text).args := by
  have hwords := Text.empty_not_mem_words text
  unfold ofText
  split
  · exact List.not_mem_nil
  · next verb args heq =>
    rw [heq] at hwords
    exact fun hmem => hwords (List.mem_cons_of_mem _ hmem)

namespace Game

theorem Sound.item_present {g : Game} (hg : g.Sound) {place : Place} {word : String} {item : Item}
    (h : g.surroundings.itemIn? place word = some item) :
    ∃ held, g.lying? place = some held ∧ 0 < held.amount item.id := by
  obtain ⟨id, hlisted, hget⟩ := Surroundings.itemMeant?_spec h
  have hid : item.id = id := hg.world.itemIds _ (Table.mem_of_get? hget)
  rw [surroundings_holdings] at hlisted
  cases hl : g.lying? place with
  | none =>
    rw [hl] at hlisted
    cases hlisted
  | some held =>
    rw [hl, Option.getD_some] at hlisted
    exact ⟨held, rfl, hid ▸ (hg.lying hl).toListed.amount_pos hlisted⟩

variable {document : Node} {catalogue : Catalogue} {traced : Bool} {o : Outcome}

/-- However a game has been played, a clause without empty words means exactly what it refers to,
and nothing only if it refers to nothing. An item that is meant is there. -/
theorem clauses_resolved (h : ofDocument document catalogue traced = .ok o) (moves : List Move)
    {args : List String} (hargs : "" ∉ args) :
    ((o.game.after moves).surroundings.target? args = none ↔
      (o.game.after moves).surroundings.Meaningless args) ∧
    (∀ t, (o.game.after moves).surroundings.target? args = some t ↔
      (o.game.after moves).surroundings.Refers args t) ∧
    ∀ item place, (o.game.after moves).surroundings.target? args = some (.item item place) →
      ∃ held, (o.game.after moves).lying? place = some held ∧ 0 < held.amount item.id := by
  have hsound : (o.game.after moves).Sound :=
    (after_keeps (fun _ m hg => hg.move m) (ofDocument_steady h) moves).sound
  refine ⟨Surroundings.target?_eq_none hargs, fun _ => Surroundings.target?_eq_some hargs,
    fun item place hitem => ?_⟩
  obtain ⟨word, hword⟩ := Surroundings.target?_item hitem
  exact hsound.item_present hword

theorem clauses_resolved_sample : ∃ o, ofDocument Sample.document .english false = .ok o ∧
    ∃ letter, (o.game.after arrival).surroundings.Refers ["1", "FROM", "Well"]
      (.item letter (.fixture 0)) ∧ letter.id = "letter" ∧
    ∃ held, (o.game.after arrival).lying? (.fixture 0) = some held ∧ 0 < held.amount letter.id := by
  have hrun : (ofDocument Sample.document .english false).toOption.any (fun o =>
      (o.game.after arrival).surroundings.source? "Well" == some (.fixture 0) &&
      ((o.game.after arrival).surroundings.itemIn? (.fixture 0) "1").any (·.id == "letter")) =
      true := by decide +kernel
  obtain ⟨o, ho, hmeant⟩ := opens_with hrun
  rw [Bool.and_eq_true, beq_iff_eq] at hmeant
  obtain ⟨hsource, hitem⟩ := hmeant
  obtain ⟨letter, hletter, hid⟩ := (Option.any_eq_true ..).mp hitem
  have hwords : "" ∉ ["1", "FROM", "Well"] := by decide
  have hclause : Clause ["1", "FROM", "Well"] ["1"] (some ["Well"]) :=
    @Clause.split ["1"] ["Well"] "FROM" (by decide +kernel) (by decide +kernel)
  have htarget : (o.game.after arrival).surroundings.target? ["1", "FROM", "Well"] =
      some (.item letter (.fixture 0)) := by
    rw [Surroundings.target?_split hclause hwords, if_neg (by decide)]
    simp [Text.unwords, hsource, hletter]
  obtain ⟨-, hrefers, hpresent⟩ := clauses_resolved ho arrival hwords
  exact ⟨o, ho, letter, (hrefers _).mp htarget, beq_iff_eq.mp hid, hpresent letter _ htarget⟩

end Game

end Fabula

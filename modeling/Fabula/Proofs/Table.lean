import Fabula.Table

set_option autoImplicit false

namespace Fabula

theorem mem_of_mem_modify {α : Type} {f : α → α} {x : α} {i : Nat} {l : List α}
    (h : x ∈ l.modify i f) : x ∈ l ∨ ∃ y ∈ l, x = f y := by
  induction l generalizing i with
  | nil => simp at h
  | cons y l ih =>
    cases i with
    | zero =>
      rcases List.mem_cons.mp (by simpa using h) with rfl | h
      · exact .inr ⟨y, by simp, rfl⟩
      · exact .inl (List.mem_cons_of_mem _ h)
    | succ i =>
      rcases List.mem_cons.mp (by simpa using h) with rfl | h
      · exact .inl (by simp)
      · rcases ih h with h | ⟨z, hz, rfl⟩
        · exact .inl (List.mem_cons_of_mem _ h)
        · exact .inr ⟨z, List.mem_cons_of_mem _ hz, rfl⟩

def total {α : Type} (count : α → Int) : List α → Int
  | [] => 0
  | x :: l => count x + total count l

theorem total_nonneg {α : Type} {count : α → Int} {l : List α} (h : ∀ x ∈ l, 0 ≤ count x) :
    0 ≤ total count l := by
  induction l with
  | nil => exact Int.le_refl 0
  | cons y l ih =>
    simp only [List.forall_mem_cons] at h
    have hrest := ih h.2
    simp only [total]
    omega

theorem le_total {α : Type} (count : α → Int) {l : List α} (h : ∀ x ∈ l, 0 ≤ count x) {x : α}
    (hx : x ∈ l) : count x ≤ total count l := by
  induction l with
  | nil => cases hx
  | cons y l ih =>
    simp only [List.forall_mem_cons] at h
    have hrest := total_nonneg h.2
    simp only [total]
    rcases List.mem_cons.mp hx with rfl | hmem
    · omega
    · have hle := ih h.2 hmem
      omega

theorem total_append {α : Type} (count : α → Int) (l m : List α) :
    total count (l ++ m) = total count l + total count m := by
  induction l with
  | nil => simp [total]
  | cons x l ih => simp only [List.cons_append, total, ih]; omega

theorem total_modify {α : Type} (count : α → Int) (f : α → α) (i : Nat) (l : List α) :
    total count (l.modify i f) =
      total count l + (l[i]?.map fun x => count (f x) - count x).getD 0 := by
  induction l generalizing i with
  | nil => simp [total]
  | cons y l ih =>
    cases i with
    | zero => simp [total]; omega
    | succ i => simp [total, ih]; omega

namespace Table

section Keys

variable {κ ν : Type}

@[simp] theorem keys_nil : keys ([] : Table κ ν) = [] := rfl

@[simp] theorem keys_cons (row : κ × ν) (t : Table κ ν) :
    keys (row :: t) = row.1 :: t.keys := rfl

@[simp] theorem keys_append (t u : Table κ ν) : keys (t ++ u) = t.keys ++ u.keys := by
  simp [keys]

theorem mem_keys {k : κ} {t : Table κ ν} : k ∈ t.keys ↔ ∃ v, (k, v) ∈ t := by
  simp [keys]

end Keys

variable {κ ν : Type} [BEq κ] [LawfulBEq κ] [DecidableEq κ]

theorem mem_of_get? {k : κ} {v : ν} {t : Table κ ν} (h : t.get? k = some v) : (k, v) ∈ t := by
  induction t with
  | nil => simp at h
  | cons row t ih =>
    obtain ⟨k', v'⟩ := row
    rw [get?_cons] at h
    by_cases hk : k' = k
    · simp only [hk, if_true, Option.some.injEq] at h
      simp [hk, h]
    · simp only [hk, if_false] at h
      exact List.mem_cons_of_mem _ (ih h)

theorem get?_isSome {k : κ} {t : Table κ ν} : (t.get? k).isSome ↔ k ∈ t.keys := by
  induction t with
  | nil => simp
  | cons row t ih =>
    obtain ⟨k', v'⟩ := row
    by_cases hk : k' = k
    · simp [get?_cons, hk]
    · simp [get?_cons, hk, Ne.symm hk, ih]

theorem get?_eq_none {k : κ} {t : Table κ ν} : t.get? k = none ↔ k ∉ t.keys := by
  rw [← get?_isSome, Option.not_isSome_iff_eq_none]

theorem get?_of_mem {k : κ} {v : ν} {t : Table κ ν} (ht : t.keys.Nodup) (h : (k, v) ∈ t) :
    t.get? k = some v := by
  induction t with
  | nil => simp at h
  | cons row t ih =>
    obtain ⟨k', v'⟩ := row
    simp only [keys_cons, List.nodup_cons] at ht
    rw [get?_cons]
    rcases List.mem_cons.mp h with heq | hmem
    · obtain ⟨rfl, rfl⟩ := Prod.mk.inj heq
      simp
    · have hk : k' ≠ k := fun e => ht.1 (e ▸ mem_keys.mpr ⟨v, hmem⟩)
      simp [hk, ih ht.2 hmem]

theorem get?_eq_some {t : Table κ ν} (ht : t.keys.Nodup) {k : κ} {v : ν} :
    t.get? k = some v ↔ (k, v) ∈ t :=
  ⟨mem_of_get?, get?_of_mem ht⟩

omit [DecidableEq κ] in
theorem nodup_keys_put {t : Table κ ν} (ht : t.keys.Nodup) (k : κ) (v : ν) :
    (t.put k v).keys.Nodup := by
  rw [keys_put]
  by_cases hk : k ∈ t.keys
  · simp [hk, ht]
  · simp [hk, List.nodup_append, ht]
    exact fun a ha e => hk (e ▸ ha)

theorem mem_put {k : κ} {v : ν} {t : Table κ ν} {row : κ × ν} (h : row ∈ t.put k v) :
    row = (k, v) ∨ row ∈ t := by
  induction t with
  | nil => simpa [put] using h
  | cons first t ih =>
    obtain ⟨k', v'⟩ := first
    by_cases hk : k' = k
    · simp only [put, hk, beq_self_eq_true, if_true, List.mem_cons] at h
      rcases h with h | h
      · exact .inl h
      · exact .inr (List.mem_cons_of_mem _ h)
    · simp only [put, beq_iff_eq, hk, if_false, List.mem_cons] at h
      rcases h with h | h
      · exact .inr (by simp [h])
      · exact (ih h).imp_right (List.mem_cons_of_mem _)

theorem mem_foldl_put {rows t : Table κ ν} {row : κ × ν}
    (h : row ∈ rows.foldl (fun t row => t.put row.1 row.2) t) : row ∈ t ∨ row ∈ rows := by
  induction rows generalizing t with
  | nil => exact .inl h
  | cons first rows ih =>
    rcases ih h with hput | hrest
    · rcases mem_put hput with rfl | hold
      · exact .inr (by simp)
      · exact .inl hold
    · exact .inr (List.mem_cons_of_mem _ hrest)

theorem mem_ofRows {rows : List (κ × ν)} {row : κ × ν} (h : row ∈ ofRows rows) : row ∈ rows :=
  (mem_foldl_put (t := ([] : Table κ ν)) h).resolve_left (by simp)

theorem erase_sublist (k : κ) (t : Table κ ν) : (t.erase k).Sublist t := by
  induction t with
  | nil => exact .slnil
  | cons row t ih =>
    by_cases hk : row.1 = k
    · simp [erase, hk]
    · simpa [erase, hk] using ih

theorem keys_erase (k : κ) (t : Table κ ν) : (t.erase k).keys = t.keys.erase k := by
  induction t with
  | nil => rfl
  | cons row t ih =>
    by_cases hk : row.1 = k
    · simp [erase, hk]
    · simp [erase, hk, ih]

theorem get?_erase_self {k : κ} {t : Table κ ν} (ht : t.keys.Nodup) :
    (t.erase k).get? k = none := by
  induction t with
  | nil => rfl
  | cons row t ih =>
    obtain ⟨k', v'⟩ := row
    simp only [keys_cons, List.nodup_cons] at ht
    by_cases hk : k' = k
    · subst hk
      simpa [erase] using get?_eq_none.mpr ht.1
    · simp [erase, hk, get?_cons, ih ht.2]

theorem get?_erase_ne {k j : κ} (h : k ≠ j) (t : Table κ ν) : (t.erase k).get? j = t.get? j := by
  induction t with
  | nil => rfl
  | cons row t ih =>
    obtain ⟨k', v'⟩ := row
    by_cases hk : k' = k
    · subst hk; simp [erase, get?_cons, h]
    · simp [erase, hk, get?_cons, ih]

@[simp] theorem keys_modify (k : κ) (f : ν → ν) (t : Table κ ν) :
    (t.modify k f).keys = t.keys := by
  induction t with
  | nil => rfl
  | cons row t ih =>
    obtain ⟨k', v'⟩ := row
    by_cases hk : k' = k <;> simp [modify, hk, ih]

theorem get?_modify (k j : κ) (f : ν → ν) (t : Table κ ν) :
    (t.modify k f).get? j = if k = j then (t.get? j).map f else t.get? j := by
  induction t with
  | nil => simp [modify]
  | cons row t ih =>
    obtain ⟨k', v⟩ := row
    by_cases hk : k' = k
    · subst hk
      by_cases hj : k' = j <;> simp [modify, get?_cons, hj]
    · by_cases hj : k' = j
      · subst hj
        simp [modify, get?_cons, hk, Ne.symm hk]
      · simp [modify, get?_cons, hk, hj, ih]

theorem mem_modify {k : κ} {f : ν → ν} {t : Table κ ν} {row : κ × ν} (h : row ∈ t.modify k f) :
    row ∈ t ∨ ∃ v, (k, v) ∈ t ∧ row = (k, f v) := by
  induction t with
  | nil => simp [modify] at h
  | cons first t ih =>
    obtain ⟨k', v'⟩ := first
    by_cases hk : k' = k
    · subst hk
      simp only [modify, beq_self_eq_true, if_true, List.mem_cons] at h
      rcases h with h | h
      · exact .inr ⟨v', by simp, h⟩
      · exact .inl (List.mem_cons_of_mem _ h)
    · simp only [modify, beq_iff_eq, hk, if_false, List.mem_cons] at h
      rcases h with h | h
      · exact .inl (by simp [h])
      · rcases ih h with h | ⟨v, hv, h⟩
        · exact .inl (List.mem_cons_of_mem _ h)
        · exact .inr ⟨v, List.mem_cons_of_mem _ hv, h⟩

theorem total_modify (count : ν → Int) (k : κ) (f : ν → ν) (t : Table κ ν) :
    total (count ·.2) (t.modify k f) =
      total (count ·.2) t + ((t.get? k).map fun v => count (f v) - count v).getD 0 := by
  induction t with
  | nil => simp [modify, total]
  | cons row t ih =>
    obtain ⟨k', v'⟩ := row
    by_cases hk : k' = k
    · simp [modify, total, get?_cons, hk]; omega
    · simp [modify, total, get?_cons, hk, ih]; omega

theorem total_put (count : ν → Int) (k : κ) (v : ν) (t : Table κ ν) :
    total (count ·.2) (t.put k v) =
      total (count ·.2) t + count v - ((t.get? k).map count).getD 0 := by
  induction t with
  | nil => simp [put, total]
  | cons row t ih =>
    obtain ⟨k', v'⟩ := row
    by_cases hk : k' = k
    · simp only [put, total, get?_cons, hk, beq_self_eq_true, if_true, Option.map_some,
        Option.getD_some]
      omega
    · simp only [put, total, get?_cons, hk, beq_iff_eq, if_false, ih]
      omega

theorem total_erase (count : ν → Int) (k : κ) (t : Table κ ν) :
    total (count ·.2) (t.erase k) =
      total (count ·.2) t - ((t.get? k).map count).getD 0 := by
  induction t with
  | nil => simp [erase, total]
  | cons row t ih =>
    obtain ⟨k', v'⟩ := row
    by_cases hk : k' = k
    · simp only [erase, total, get?_cons, hk, beq_self_eq_true, if_true, Option.map_some,
        Option.getD_some]
      omega
    · simp only [erase, total, get?_cons, hk, beq_iff_eq, if_false, ih]
      omega

omit [DecidableEq κ] in
theorem put_new {k : κ} {t : Table κ ν} (hk : k ∉ t.keys) (v : ν) : t.put k v = t ++ [(k, v)] := by
  induction t with
  | nil => rfl
  | cons row t ih =>
    simp only [keys_cons, List.mem_cons, not_or] at hk
    simp [put, Ne.symm hk.1, ih hk.2]

omit [DecidableEq κ] in
/-- A key that no row before writes is written where it stands. -/
theorem put_middle {k : κ} {before : Table κ ν}
    (hk : k ∉ before.keys) (old new : ν) (later : Table κ ν) :
    put k new (before ++ (k, old) :: later) = before ++ (k, new) :: later := by
  induction before with
  | nil => simp [put]
  | cons row before ih =>
    rw [keys_cons, List.mem_cons, not_or] at hk
    simp [put, Ne.symm hk.1, ih hk.2]

omit [DecidableEq κ] in
theorem foldl_put_new {t rows : Table κ ν} (h : (t.keys ++ keys rows).Nodup) :
    rows.foldl (fun t row => t.put row.1 row.2) t = t ++ rows := by
  induction rows generalizing t with
  | nil => simp
  | cons row rows ih =>
    have hnew : row.1 ∉ t.keys := by
      intro hk
      simp only [keys_cons, List.nodup_append] at h
      exact h.2.2 _ hk _ (by simp) rfl
    rw [List.foldl_cons, put_new hnew, ih (by simpa using h)]
    simp

omit [DecidableEq κ] in
theorem ofRows_eq {rows : Table κ ν} (h : (keys rows).Nodup) : ofRows rows = rows := by
  simpa [ofRows] using foldl_put_new (t := ([] : Table κ ν)) (by simpa using h)

/-- A table with one row for each key that rows write, and in it the last value that is written for
the key. -/
structure Collects (rows t : Table κ ν) : Prop where
  once : t.keys.Nodup
  last : ∀ k v, (k, v) ∈ t ↔
    ∃ before later, rows = before ++ (k, v) :: later ∧ k ∉ keys later

theorem mem_put_iff {t : Table κ ν} (ht : t.keys.Nodup) {k j : κ} {v w : ν} :
    (j, w) ∈ t.put k v ↔ j = k ∧ w = v ∨ j ≠ k ∧ (j, w) ∈ t := by
  rw [← get?_eq_some (nodup_keys_put ht k v), ← get?_eq_some ht]
  by_cases hj : j = k
  · subst hj
    simp [get?_put_self, eq_comm]
  · simp [get?_put_ne (Ne.symm hj), hj]

theorem Collects.put {rows t : Table κ ν} (h : Collects rows t) (k : κ) (v : ν) :
    Collects (rows ++ [(k, v)]) (t.put k v) := by
  refine ⟨nodup_keys_put h.once k v, fun j w => ?_⟩
  rw [mem_put_iff h.once, h.last]
  constructor
  · rintro (⟨rfl, rfl⟩ | ⟨hj, before, later, rfl, hlater⟩)
    · exact ⟨rows, [], rfl, by simp⟩
    · exact ⟨before, later ++ [(k, v)], by simp, by simpa using ⟨hlater, hj⟩⟩
  · rintro ⟨before, later, hrows, hlater⟩
    rcases List.eq_nil_or_concat later with rfl | ⟨later, last, rfl⟩
    · obtain ⟨-, hlast⟩ := List.append_inj' hrows rfl
      obtain ⟨rfl, rfl⟩ := Prod.mk.inj (List.singleton_inj.mp hlast)
      exact .inl ⟨rfl, rfl⟩
    · rw [List.concat_eq_append] at hrows hlater
      obtain ⟨hbefore, hlast⟩ := List.append_inj' (by simpa using hrows :
        rows ++ [(k, v)] = (before ++ (j, w) :: later) ++ [last]) rfl
      obtain rfl := List.singleton_inj.mp hlast
      simp only [keys_append, List.mem_append, not_or] at hlater
      exact .inr ⟨by simpa using hlater.2, before, later, hbefore, hlater.1⟩

theorem foldl_put_collects {before t : Table κ ν} (h : Collects before t) (rows : Table κ ν) :
    Collects (before ++ rows) (rows.foldl (fun t row => t.put row.1 row.2) t) := by
  induction rows generalizing before t with
  | nil => rwa [List.append_nil]
  | cons row rows ih =>
    rw [List.append_cons]
    exact ih (h.put row.1 row.2)

theorem ofRows_collects (rows : Table κ ν) : Collects rows (ofRows rows) :=
  have hnone : Collects ([] : Table κ ν) [] := ⟨.nil, by simp⟩
  foldl_put_collects hnone rows

end Table

end Fabula

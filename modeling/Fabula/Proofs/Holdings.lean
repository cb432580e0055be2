import Fabula.Boxes
import Fabula.Proofs.Table

set_option autoImplicit false

namespace Fabula

structure Holdings.Listed (h : Holdings) : Prop where
  once : (Table.keys h).Nodup
  positive : ∀ row ∈ h, 0 < row.2

namespace Holdings

theorem Listed.empty : Listed [] := ⟨List.nodup_nil, by simp⟩

theorem Listed.put {h : Holdings} (hl : h.Listed) (item : String) {n : Int} (hn : 0 < n) :
    Listed (Table.put item n h) := by
  refine ⟨Table.nodup_keys_put hl.once item n, fun row hrow => ?_⟩
  rcases Table.mem_put hrow with rfl | hold
  · exact hn
  · exact hl.positive row hold

theorem amount_nonneg {h : Holdings} (hl : h.Listed) (item : String) : 0 ≤ h.amount item := by
  unfold amount
  cases hg : Table.get? h item with
  | none => simp
  | some n =>
    have hp := hl.positive _ (Table.mem_of_get? hg)
    simp at hp ⊢
    omega

theorem Listed.amount_pos {h : Holdings} (hl : h.Listed) {item : String}
    (hitem : item ∈ Table.keys h) : 0 < h.amount item := by
  obtain ⟨row, hrow, rfl⟩ := List.mem_map.mp hitem
  rw [amount, Table.get?_of_mem hl.once hrow]
  exact hl.positive row hrow

theorem mem_keys_iff {h : Holdings} (hl : h.Listed) {item : String} :
    item ∈ Table.keys h ↔ 0 < h.amount item := by
  rw [← Table.get?_isSome, amount]
  cases hg : Table.get? h item with
  | none => simp
  | some n => simpa using hl.positive _ (Table.mem_of_get? hg)

theorem listed_add {h : Holdings} (hl : h.Listed) (item : String) (n : Int) :
    (h.add item n).Listed := by
  unfold add
  by_cases hn : n ≤ 0
  · simpa [hn] using hl
  · have hp := amount_nonneg hl item
    simpa [hn] using hl.put item (by omega)

theorem listed_remove {h : Holdings} (hl : h.Listed) (item : String) (n : Int) :
    (h.remove item n).Listed := by
  unfold remove
  by_cases hn : h.amount item ≤ 0 ∨ n ≤ 0
  · simpa [hn] using hl
  · by_cases hm : n < h.amount item
    · simpa [hn, hm] using hl.put item (by omega)
    · have hs := Table.erase_sublist item h
      have he : Listed (Table.erase item h) :=
        ⟨(hs.map _).nodup hl.once, fun row hrow => hl.positive row (hs.subset hrow)⟩
      simpa [hn, hm] using he

theorem removable_nonneg {h : Holdings} (hl : h.Listed) (item : String) (n : Int) :
    0 ≤ h.removable item n := by
  have hp := amount_nonneg hl item
  unfold removable
  by_cases hn : h.amount item ≤ 0 ∨ n ≤ 0
  · simp [hn]
  · simp [hn]; omega

theorem amount_put_self (h : Holdings) (item : String) (n : Int) :
    amount (Table.put item n h) item = n := by
  simp [amount, Table.get?_put_self]

theorem amount_put_ne {item other : String} (he : item ≠ other) (h : Holdings) (n : Int) :
    amount (Table.put item n h) other = h.amount other := by
  simp [amount, Table.get?_put_ne he]

theorem amount_erase_self {h : Holdings} (hl : h.Listed) (item : String) :
    amount (Table.erase item h) item = 0 := by
  simp [amount, Table.get?_erase_self hl.once]

theorem amount_erase_ne {item other : String} (he : item ≠ other) (h : Holdings) :
    amount (Table.erase item h) other = h.amount other := by
  simp [amount, Table.get?_erase_ne he]

theorem amount_add (h : Holdings) (item : String) {n : Int} (hn : 0 ≤ n) (other : String) :
    (h.add item n).amount other = h.amount other + if item = other then n else 0 := by
  unfold add
  by_cases hz : n ≤ 0
  · have h0 : n = 0 := by omega
    simp [h0]
  · by_cases he : item = other
    · subst he
      simp [hz, amount_put_self]
    · simp [hz, he, amount_put_ne he]

theorem amount_remove {h : Holdings} (hl : h.Listed) (item : String) (n : Int) (other : String) :
    (h.remove item n).amount other =
      h.amount other - if item = other then h.removable item n else 0 := by
  unfold remove removable
  by_cases hn : h.amount item ≤ 0 ∨ n ≤ 0
  · simp [hn]
  · rw [if_neg hn, if_neg hn]
    by_cases hm : n < h.amount item
    · have hmin : min n (h.amount item) = n := by omega
      rw [if_pos hm, hmin]
      by_cases he : item = other
      · subst he
        simp [amount_put_self]
      · simp [he, amount_put_ne he]
    · have hmin : min n (h.amount item) = h.amount item := by omega
      rw [if_neg hm, hmin]
      by_cases he : item = other
      · subst he
        simp [amount_erase_self hl]
      · simp [he, amount_erase_ne he]

theorem mem_keys_add {h : Holdings} {item other : String} {n : Int}
    (hk : other ∈ Table.keys (h.add item n)) : other = item ∨ other ∈ Table.keys h := by
  unfold add at hk
  by_cases hn : n ≤ 0
  · exact .inr (by simpa [hn] using hk)
  · obtain ⟨m, hm⟩ := Table.mem_keys.mp hk
    simp only [hn, if_false] at hm
    rcases Table.mem_put hm with heq | hold
    · exact .inl (Prod.mk.inj heq).1
    · exact .inr (Table.mem_keys.mpr ⟨m, hold⟩)

theorem mem_keys_remove {h : Holdings} {item other : String} {n : Int}
    (hk : other ∈ Table.keys (h.remove item n)) : other ∈ Table.keys h := by
  unfold remove at hk
  by_cases hn : h.amount item ≤ 0 ∨ n ≤ 0
  · simpa [hn] using hk
  · by_cases hm : n < h.amount item
    · have hin : item ∈ Table.keys h := by
        rw [← Table.get?_isSome, Option.isSome_iff_ne_none]
        intro hg
        simp [amount, hg] at hn
      simpa [hn, hm, Table.keys_put, hin] using hk
    · simp only [hn, hm, if_false] at hk
      exact ((Table.erase_sublist item h).map _).subset hk

end Holdings

end Fabula

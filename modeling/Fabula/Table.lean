set_option autoImplicit false

namespace Fabula

abbrev Table (κ ν : Type) := List (κ × ν)

namespace Table

variable {κ ν : Type} [BEq κ]

def put (k : κ) (v : ν) : Table κ ν → Table κ ν
  | [] => [(k, v)]
  | (k', v') :: rows => if k' == k then (k', v) :: rows else (k', v') :: put k v rows

def erase (k : κ) : Table κ ν → Table κ ν
  | [] => []
  | (k', v') :: rows => if k' == k then rows else (k', v') :: erase k rows

def get? (t : Table κ ν) (k : κ) : Option ν := (t.find? fun row => row.1 == k).map (·.2)

def has (t : Table κ ν) (k : κ) : Bool := t.any fun row => row.1 == k

def keys (t : Table κ ν) : List κ := t.map (·.1)

/-- A table from rows that may repeat a key: the last value counts, at the first place. -/
def ofRows (rows : List (κ × ν)) : Table κ ν := rows.foldl (fun t row => t.put row.1 row.2) []

def modify (k : κ) (f : ν → ν) : Table κ ν → Table κ ν
  | [] => []
  | (k', v) :: rows => if k' == k then (k', f v) :: rows else (k', v) :: modify k f rows

end Table

namespace Table

variable {κ ν : Type}

@[simp] theorem get?_nil [BEq κ] (k : κ) : get? ([] : Table κ ν) k = none := rfl

variable [BEq κ] [LawfulBEq κ]

theorem get?_cons [DecidableEq κ] (k k' : κ) (v : ν) (rows : Table κ ν) :
    get? ((k', v) :: rows) k = if k' = k then some v else get? rows k := by
  by_cases h : k' = k <;> simp [get?, h]

theorem get?_put_self (k : κ) (v : ν) (t : Table κ ν) : (t.put k v).get? k = some v := by
  induction t with
  | nil => simp [put, get?]
  | cons row rows ih =>
    obtain ⟨k', v'⟩ := row
    by_cases h : k' = k <;> simp_all [put, get?]

theorem get?_put_ne {k j : κ} (h : k ≠ j) (v : ν) (t : Table κ ν) :
    (t.put k v).get? j = t.get? j := by
  induction t with
  | nil => simp [put, get?, h]
  | cons row rows ih =>
    obtain ⟨k', v'⟩ := row
    by_cases hk : k' = k
    · subst hk; simp [put, get?, h]
    · by_cases hj : k' = j <;> simp_all [put, get?]

theorem keys_put (k : κ) (v : ν) (t : Table κ ν) :
    (t.put k v).keys = if k ∈ t.keys then t.keys else t.keys ++ [k] := by
  induction t with
  | nil => simp [put, keys]
  | cons row rows ih =>
    obtain ⟨k', v'⟩ := row
    by_cases h : k' = k
    · simp [put, keys, h]
    · have ih' : List.map (·.1) (put k v rows) = _ := ih
      simp only [keys] at ih'
      by_cases hm : k ∈ List.map (·.1) rows
      · simp [put, keys, h, Ne.symm h, ih', hm]
      · simp [put, keys, h, Ne.symm h, ih', hm]

end Table

end Fabula

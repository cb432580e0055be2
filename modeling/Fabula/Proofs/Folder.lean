import Fabula.Folder
import Fabula.Proofs.Template

set_option autoImplicit false

namespace Fabula

section

variable {α : Type} {a : α} {separator l : List α} {ls : List (List α)}

theorem mem_intercalate (h : a ∈ separator.intercalate ls) :
    a ∈ separator ∨ ∃ l ∈ ls, a ∈ l := by
  induction ls with
  | nil => simp at h
  | cons l ls ih =>
    cases ls with
    | nil => exact .inr ⟨l, by simp, by simpa using h⟩
    | cons next ls =>
      rw [List.intercalate_cons_cons, List.mem_append, List.mem_append] at h
      rcases h with (hl | hs) | hrest
      · exact .inr ⟨l, by simp, hl⟩
      · exact .inl hs
      · rcases ih hrest with hs | ⟨l', hl', ha⟩
        · exact .inl hs
        · exact .inr ⟨l', List.mem_cons_of_mem _ hl', ha⟩

theorem mem_intercalate_of_mem (hl : l ∈ ls) (ha : a ∈ l) : a ∈ separator.intercalate ls := by
  induction ls with
  | nil => cases hl
  | cons first ls ih =>
    cases ls with
    | nil =>
      obtain rfl := List.mem_singleton.mp hl
      simpa using ha
    | cons next ls =>
      rw [List.intercalate_cons_cons, List.mem_append, List.mem_append]
      rcases List.mem_cons.mp hl with rfl | hrest
      · exact .inl (.inl ha)
      · exact .inr (ih hrest)

end

namespace Path

theorem mem_of_mem_parts {path part : String} {c : Char} (hpart : part ∈ parts path)
    (hc : c ∈ part.toList) : c ∈ path.toList := by
  obtain ⟨cs, hcs, rfl⟩ := List.mem_map.mp hpart
  rw [String.toList_ofList] at hc
  have hwhole : ['/'].intercalate (path.toList.splitOn '/') = path.toList :=
    List.intercalate_splitOn '/'
  rw [← hwhole]
  exact mem_intercalate_of_mem hcs hc

theorem mem_of_mem_normal {path : String} {c : Char} (h : c ∈ (normal path).toList) :
    c ∈ path.toList ∨ c = '/' ∨ c = '.' := by
  have hjoined {c : Char} (h : c ∈ ("/".intercalate (names path)).toList) :
      c ∈ path.toList ∨ c = '/' ∨ c = '.' := by
    rw [String.toList_intercalate] at h
    rcases mem_intercalate h with hslash | ⟨l, hl, hc⟩
    · exact .inr (.inl (by simpa using hslash))
    · obtain ⟨name, hname, rfl⟩ := List.mem_map.mp hl
      exact .inl (mem_of_mem_parts (List.mem_filter.mp hname).1 hc)
  rw [normal] at h
  split at h
  · rw [String.toList_append, List.mem_append] at h
    rcases h with hslash | hc
    · refine .inr (.inl ?_)
      split at hslash <;> simpa using hslash
    · exact hjoined hc
  · split at h
    · exact .inr (.inr (by simpa using h))
    · exact hjoined h

end Path

theorem foldlM_error {σ α ε : Type} {f : σ → α → Except ε σ} {s : σ} {l : List α} {e : ε}
    (h : l.foldlM f s = .error e) : ∃ s, ∃ a ∈ l, f s a = .error e := by
  induction l generalizing s with
  | nil => cases h
  | cons a l ih =>
    rw [List.foldlM_cons] at h
    rcases bind_error h with ha | ⟨s', -, hrest⟩
    · exact ⟨s, a, by simp, ha⟩
    · obtain ⟨s, a, hmem, he⟩ := ih hrest
      exact ⟨s, a, List.mem_cons_of_mem _ hmem, he⟩

namespace Folder

theorem stepTo_usable (f : Folder) (spot : Spot) (name : String) :
    f.stepTo spot name ≠ .error .unusable := by
  cases spot with
  | file octets => simp [stepTo]
  | folder way =>
    simp only [stepTo]
    split
    · simp
    · split
      · simp
      · split
        · simp
        · split
          · simp
          · split <;> simp

theorem read_unusable {f : Folder} {path : String} (h : f.read path = .error .unusable) :
    '\x00' ∈ path.toList := by
  rcases bind_error h with hfollow | ⟨spot, -, hspot⟩
  · rw [follow] at hfollow
    split at hfollow
    · next hnull => exact hnull
    · split at hfollow
      · cases hfollow
      · obtain ⟨spot, name, -, hstep⟩ := foldlM_error hfollow
        exact absurd hstep (f.stepTo_usable spot name)
  · cases spot <;> cases hspot

end Folder

end Fabula

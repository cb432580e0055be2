import Fabula.Play.Noun
import Fabula.Proofs.Table

set_option autoImplicit false

namespace Fabula

namespace Surroundings

theorem itemMeant?_spec {s : Surroundings} {word : String} {n : Nat} {h : Holdings} {item : Item}
    (hi : s.itemMeant? word n h = some item) :
    ∃ id ∈ Table.keys h, s.items.get? id = some item := by
  induction h generalizing n with
  | nil => simp [itemMeant?] at hi
  | cons row rest ih =>
    obtain ⟨id, amount⟩ := row
    have later : s.itemMeant? word (n + 1) rest = some item →
        ∃ id' ∈ Table.keys ((id, amount) :: rest), s.items.get? id' = some item := by
      intro hrest
      obtain ⟨id', hid', hget⟩ := ih hrest
      exact ⟨id', by simp [hid'], hget⟩
    cases hg : s.items.get? id with
    | none => exact later (by simpa [itemMeant?, hg] using hi)
    | some found =>
      by_cases hm : means word n found.name = true
      · simp only [itemMeant?, hg, hm, if_true, Option.some.injEq] at hi
        exact ⟨id, by simp, hi ▸ hg⟩
      · exact later (by simpa [itemMeant?, hg, hm] using hi)

theorem target?_item {s : Surroundings} {args : List String} {item : Item} {place : Place}
    (h : s.target? args = some (.item item place)) : ∃ word, s.itemIn? place word = some item := by
  unfold target? at h
  split at h
  · cases h
  · cases h
  · rename_i word source _ _ _
    cases hp : s.source? source with
    | none => simp [hp] at h
    | some found =>
      cases hi : s.itemIn? found word with
      | none => simp [hp, hi] at h
      | some it =>
        simp only [hp, hi, Option.bind_eq_bind, Option.bind_some, Option.pure_def,
          Option.some.injEq, Target.item.injEq] at h
        obtain ⟨rfl, rfl⟩ := h
        exact ⟨word, hi⟩
  · rename_i word _ _
    cases hi : s.itemIn? .ground word with
    | some it =>
      simp only [hi, Option.some.injEq, Target.item.injEq] at h
      obtain ⟨rfl, rfl⟩ := h
      exact ⟨word, hi⟩
    | none =>
      simp only [hi, fixtureTarget?] at h
      cases ha : s.area with
      | none => simp [ha] at h
      | some area =>
        cases hf : area.fixture? word with
        | none => simp [ha, hf] at h
        | some i => cases hx : area.fixtures[i]? <;> simp [ha, hf, hx] at h

end Surroundings

end Fabula

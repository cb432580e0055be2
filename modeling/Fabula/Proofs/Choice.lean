import Mathlib.Data.List.Nodup
import Fabula.Proofs.Cue
import Fabula.Proofs.Words

/-!
Answers to a choice. A line fits an option by the number of the option or by its text, and selects
the first option that it fits. Where the texts can be told apart from each other and from the
numbers, a line fits one option at most, and the number and the text of an option do the same.
-/

set_option autoImplicit false

namespace Fabula.Cue

/-- A line fits the option at a position: by its number, which counts from one, or by its text. -/
def Fits (texts : List String) (line : String) (i : Nat) : Prop :=
  ∃ text, texts[i]? = some text ∧ (Text.trim line = Nat.repr (i + 1) ∨ Text.trim line = text)

/-- A line selects the option at a position if the reply to it is the cue of this very option,
whatever the cues of the options are. -/
def Selects (texts : List String) (line : String) (i : Nat) : Prop :=
  ∀ question (cues : Nat → Cue),
    (choose question (texts.mapIdx fun j text => (text, cues j))).reply? line = some (cues i)

/-- Texts of options that are mistaken neither for each other nor for a number. -/
structure Unambiguous (texts : List String) : Prop where
  trimmed : ∀ text ∈ texts, Text.trim text = text
  distinct : texts.Nodup
  noNumber : ∀ i < texts.length, Nat.repr (i + 1) ∉ texts

theorem option?_eq_find? (answer : String) (n : Nat) (options : List (String × Cue)) :
    option? answer n options = ((options.zipIdx n).find? fun option =>
      answer = Nat.repr option.2 ∨ answer = option.1.1).map (·.1.2) := by
  induction options generalizing n with
  | nil => rfl
  | cons option options ih =>
    obtain ⟨text, cue⟩ := option
    rw [option?, List.zipIdx_cons, List.find?_cons]
    by_cases hfits : answer = Nat.repr n ∨ answer = text
    · simp [hfits]
    · simp [hfits, ih]

section

variable {line : String} {i j : Nat}

theorem fits_iff_getElem {options : List (String × Cue)} :
    Fits (options.map (·.1)) line i ↔ ∃ h : i < options.length,
      Text.trim line = Nat.repr (i + 1) ∨ Text.trim line = options[i].1 := by
  constructor
  · rintro ⟨text, htext, hfits⟩
    rw [List.getElem?_map, Option.map_eq_some_iff] at htext
    obtain ⟨option, hoption, rfl⟩ := htext
    obtain ⟨h, rfl⟩ := List.getElem?_eq_some_iff.mp hoption
    exact ⟨h, hfits⟩
  · rintro ⟨h, hfits⟩
    exact ⟨options[i].1, by simp [h], hfits⟩

/-- The reply to a line is the cue of the first option that the line fits. -/
theorem reply?_eq_some {question : String} {options : List (String × Cue)} {cue : Cue} :
    (choose question options).reply? line = some cue ↔
      ∃ i, (Fits (options.map (·.1)) line i ∧ ∀ j < i, ¬Fits (options.map (·.1)) line j) ∧
        options[i]?.map (·.2) = some cue := by
  rw [reply?, option?_eq_find?, Option.map_eq_some_iff]
  constructor
  · rintro ⟨option, hfind, rfl⟩
    obtain ⟨hfits, i, hi, rfl, hfirst⟩ := List.find?_eq_some_iff_getElem.mp hfind
    simp only [List.length_zipIdx] at hi
    simp only [List.getElem_zipIdx, decide_eq_true_eq, Nat.add_comm 1] at hfits
    refine ⟨i, ⟨fits_iff_getElem.mpr ⟨hi, hfits⟩, fun j hj hearlier => ?_⟩, by simp [hi]⟩
    obtain ⟨_, hfits'⟩ := fits_iff_getElem.mp hearlier
    have hnot := hfirst j hj
    simp only [List.getElem_zipIdx, Nat.add_comm 1, Bool.not_eq_true',
      decide_eq_false_iff_not] at hnot
    exact hnot hfits'
  · rintro ⟨i, ⟨hfits, hfirst⟩, hcue⟩
    obtain ⟨hi, hfits⟩ := fits_iff_getElem.mp hfits
    refine ⟨(options[i], i + 1), ?_, by simpa [hi] using hcue⟩
    refine List.find?_eq_some_iff_getElem.mpr ⟨by simpa using hfits, i, by simpa using hi, ?_, ?_⟩
    · simp [Nat.add_comm]
    · intro j hj
      simp only [List.getElem_zipIdx, Nat.add_comm 1, Bool.not_eq_true', decide_eq_false_iff_not]
      exact fun hfits' => hfirst j hj (fits_iff_getElem.mpr ⟨Nat.lt_trans hj hi, hfits'⟩)

variable {texts : List String}

theorem Fits.lt_length (h : Fits texts line i) : i < texts.length := by
  obtain ⟨text, htext, -⟩ := h
  exact (List.getElem?_eq_some_iff.mp htext).1

theorem fits_number (hi : i < texts.length) (hline : Text.trim line = Nat.repr (i + 1)) :
    Fits texts line i :=
  ⟨texts[i], List.getElem?_eq_getElem hi, .inl hline⟩

theorem selects_iff : Selects texts line i ↔ Fits texts line i ∧ ∀ j < i, ¬Fits texts line j := by
  have htexts : ∀ cues : Nat → Cue,
      (texts.mapIdx fun j text => (text, cues j)).map (·.1) = texts := by
    intro cues
    exact List.ext_getElem (by simp) (by simp)
  constructor
  · intro h
    -- Cues that tell the options apart show which option the reply belongs to.
    obtain ⟨k, hfirst, hcue⟩ := reply?_eq_some.mp (h "" fun j => .narrate (Nat.repr j))
    rw [htexts] at hfirst
    rw [List.getElem?_mapIdx, Option.map_map, Option.map_eq_some_iff] at hcue
    obtain ⟨text, -, hcue⟩ := hcue
    obtain rfl : k = i := Text.decimal_inj (Cue.narrate.inj hcue)
    exact hfirst
  · intro h question cues
    obtain ⟨text, htext, -⟩ := h.1
    refine reply?_eq_some.mpr ⟨i, ?_, ?_⟩
    · rw [htexts]
      exact h
    · rw [List.getElem?_mapIdx, htext]
      rfl

theorem exists_selects (h : Fits texts line i) : ∃ j, Selects texts line j := by
  induction i using Nat.strongRecOn with
  | ind i ih =>
    by_cases hearlier : ∃ j < i, Fits texts line j
    · obtain ⟨j, hj, hfits⟩ := hearlier
      exact ih j hj hfits
    · exact ⟨i, selects_iff.mpr ⟨h, fun j hj hfits => hearlier ⟨j, hj, hfits⟩⟩⟩

theorem reply?_eq_none {question : String} {options : List (String × Cue)} :
    (choose question options).reply? line = none ↔ ∀ i, ¬Fits (options.map (·.1)) line i := by
  rw [Option.eq_none_iff_forall_ne_some]
  constructor
  · intro hnone i hfits
    obtain ⟨j, hselects⟩ := exists_selects hfits
    have hfirst := selects_iff.mp hselects
    obtain ⟨hj, -⟩ := fits_iff_getElem.mp hfirst.1
    exact hnone options[j].2 (reply?_eq_some.mpr ⟨j, hfirst, by simp [hj]⟩)
  · intro hnone cue hcue
    obtain ⟨i, hfirst, -⟩ := reply?_eq_some.mp hcue
    exact hnone i hfirst.1

theorem fits_of_number (hline : Text.trim line = Nat.repr (i + 1)) (hne : j ≠ i) :
    Fits texts line j ↔ texts[j]? = some (Nat.repr (i + 1)) := by
  constructor
  · rintro ⟨text, htext, hnumber | htext'⟩
    · have hsame := Text.decimal_inj (hnumber.symm.trans hline)
      omega
    · rw [htext, ← htext', hline]
  · intro htext
    exact ⟨_, htext, .inr hline⟩

theorem not_fits_iff : (∀ i, ¬Fits texts line i) ↔
    (∀ i < texts.length, Text.trim line ≠ Nat.repr (i + 1)) ∧ Text.trim line ∉ texts := by
  constructor
  · intro hno
    refine ⟨fun i hi hnumber => hno i (fits_number hi hnumber), fun hmem => ?_⟩
    obtain ⟨i, htext⟩ := List.mem_iff_getElem?.mp hmem
    exact hno i ⟨_, htext, .inr rfl⟩
  · rintro ⟨hnumber, htext⟩ i hfits
    have hi := hfits.lt_length
    obtain ⟨text, hi', hnumber' | htext'⟩ := hfits
    · exact hnumber i hi hnumber'
    · exact htext (htext' ▸ List.mem_of_getElem? hi')

namespace Unambiguous

variable (h : Unambiguous texts)

include h

theorem fits_unique (hi : Fits texts line i) (hj : Fits texts line j) : i = j := by
  have hother : ∀ {i j}, Fits texts line i → Fits texts line j →
      Text.trim line = Nat.repr (i + 1) → j = i := by
    intro i j hi hj hnumber
    by_contra hne
    have htext := (fits_of_number hnumber hne).mp hj
    exact h.noNumber i hi.lt_length (List.mem_of_getElem? htext)
  obtain ⟨text, htext, hnumber | htrim⟩ := id hi
  · exact (hother hi hj hnumber).symm
  · obtain ⟨text', htext', hnumber | htrim'⟩ := id hj
    · exact hother hj hi hnumber
    · exact (List.getElem?_inj hi.lt_length h.distinct).mp (by rw [htext, htext', ← htrim, htrim'])

theorem selects_iff_fits : Selects texts line i ↔ Fits texts line i := by
  rw [selects_iff]
  refine ⟨fun hfirst => hfirst.1, fun hi => ⟨hi, fun j hj hfits => ?_⟩⟩
  have hsame := h.fits_unique hi hfits
  omega

end Unambiguous

/-- The reply to a line is the cue of the option that it selects, which is the first one that it
fits by number or text; so a number selects its option unless it is the text of an earlier one.
There is no reply to a line that is neither a number nor a text. Of unambiguous options a line fits
one at most, and selects it, and each can be selected by its number and by its text. -/
theorem selected_by_number_or_text (question : String) (options : List (String × Cue))
    (line : String) :
    let texts := options.map (·.1)
    let reply? := (choose question options).reply? line
    (∀ cue, reply? = some cue ↔ ∃ i, Selects texts line i ∧ options[i]?.map (·.2) = some cue) ∧
    (reply? = none ↔
      (∀ i < texts.length, Text.trim line ≠ Nat.repr (i + 1)) ∧ Text.trim line ∉ texts) ∧
    (∀ i, Selects texts line i ↔ Fits texts line i ∧ ∀ j < i, ¬Fits texts line j) ∧
    (∀ i < texts.length, Text.trim line = Nat.repr (i + 1) →
      (Selects texts line i ↔ ∀ j < i, texts[j]? ≠ some (Nat.repr (i + 1)))) ∧
    (Unambiguous texts →
      (∀ i, Selects texts line i ↔ Fits texts line i) ∧
      (∀ i j, Fits texts line i → Fits texts line j → i = j) ∧
      ∀ i text, texts[i]? = some text →
        Selects texts (Nat.repr (i + 1)) i ∧ Selects texts text i) := by
  intro texts reply?
  refine ⟨fun cue => ?_, reply?_eq_none.trans not_fits_iff, fun i => selects_iff,
    fun i hi hline => ?_, fun h => ⟨fun i => h.selects_iff_fits, fun i j => h.fits_unique,
      fun i text htext => ?_⟩⟩
  · simp only [selects_iff]
    exact reply?_eq_some
  · rw [selects_iff, and_iff_right (fits_number hi hline)]
    refine forall₂_congr fun j hj => ?_
    rw [fits_of_number hline (Nat.ne_of_lt hj)]
  · have hi := (List.getElem?_eq_some_iff.mp htext).1
    have htrim := h.trimmed text (List.mem_of_getElem? htext)
    exact ⟨h.selects_iff_fits.mpr (fits_number hi (Text.trim_decimal (i + 1))),
      h.selects_iff_fits.mpr ⟨text, htext, .inr htrim⟩⟩

theorem selected_by_number_or_text_toll :
    let options : List (String × Cue) := [("Pay 2 coins", .enter "bridge"), ("turn back", .pass)]
    Unambiguous (options.map (·.1)) ∧
    (∀ i, Selects (options.map (·.1)) " turn back\t" i ↔ i = 1) ∧
    Selects (options.map (·.1)) "2" 1 ∧
    (choose "Toll" options).reply? "pay 2 coins" = none := by
  intro options
  have htrim : ∀ text ∈ options.map (·.1), Text.trim text = text := by decide +kernel
  have hnumber : ∀ i < (options.map (·.1)).length, Nat.repr (i + 1) ∉ options.map (·.1) := by
    decide +kernel
  have h : Unambiguous (options.map (·.1)) := ⟨htrim, by decide, hnumber⟩
  have hline : Text.trim " turn back\t" = "turn back" := by decide +kernel
  have hfits : Fits (options.map (·.1)) " turn back\t" 1 := ⟨"turn back", rfl, .inr hline⟩
  obtain ⟨-, -, -, -, hall⟩ := selected_by_number_or_text "Toll" options " turn back\t"
  obtain ⟨hselects, hunique, hboth⟩ := hall h
  obtain ⟨-, hnone, -⟩ := selected_by_number_or_text "Toll" options "pay 2 coins"
  refine ⟨h, fun i => ?_, (hboth 1 "turn back" rfl).1, hnone.mpr ⟨?_, ?_⟩⟩
  · rw [hselects]
    exact ⟨fun hi => hunique i 1 hi hfits, fun hi => hi ▸ hfits⟩
  · decide +kernel
  · decide +kernel

end

end Fabula.Cue

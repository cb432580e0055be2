import Mathlib.Data.List.TakeWhile
import Fabula.Text.Blank
import Fabula.Text.CaseFold
import Fabula.Text.Numeral

set_option autoImplicit false

namespace Fabula.Text

def isWord (s : String) : Bool := s != "" && s.toList.all fun c => !isBlank c

section

variable {w : List Char}

theorem splitWords_append (hw : ∀ c ∈ w, isBlank c = false) (rest : List Char) :
    splitWords (w ++ rest) = (w ++ (splitWords rest).1, (splitWords rest).2) := by
  induction w with
  | nil => rfl
  | cons c w ih =>
    simp only [List.forall_mem_cons] at hw
    rw [List.cons_append, splitWords, ih hw.2]
    simp [hw.1]

theorem wordsOf_append (hw : ∀ c ∈ w, isBlank c = false) (hne : w ≠ []) {rest : List Char}
    (hrest : ∀ c ∈ rest.head?, isBlank c = true) : wordsOf (w ++ rest) = w :: wordsOf rest := by
  have hends : splitWords rest = ([], wordsOf rest) := by
    cases rest with
    | nil => rfl
    | cons c rest =>
      have hc : isBlank c = true := hrest c rfl
      simp [wordsOf, splitWords, hc]
  rw [wordsOf, splitWords_append hw, hends]
  simp [hne]

theorem wordsOf_blank {c : Char} (hc : isBlank c = true) (cs : List Char) :
    wordsOf (c :: cs) = wordsOf cs := by
  simp [wordsOf, splitWords, hc]

theorem wordsOf_before {before : List Char} (h : ∀ c ∈ before, isBlank c = true)
    (cs : List Char) : wordsOf (before ++ cs) = wordsOf cs := by
  induction before with
  | nil => rfl
  | cons c before ih =>
    simp only [List.forall_mem_cons] at h
    rw [List.cons_append, wordsOf_blank h.1, ih h.2]

theorem splitWords_behind {behind : List Char} (h : ∀ c ∈ behind, isBlank c = true)
    (cs : List Char) : splitWords (cs ++ behind) = splitWords cs := by
  induction cs with
  | nil =>
    induction behind with
    | nil => rfl
    | cons c behind ih =>
      simp only [List.forall_mem_cons] at h
      have hnone : splitWords behind = ([], []) := ih h.2
      simp [splitWords, hnone, h.1]
  | cons c cs ih => rw [List.cons_append, splitWords, splitWords, ih]

end

theorem isWord_iff {s : String} :
    isWord s = true ↔ s.toList ≠ [] ∧ ∀ c ∈ s.toList, isBlank c = false := by
  simp [isWord]

theorem unwords_cons (w : String) {ws : List String} (h : ws ≠ []) :
    unwords (w :: ws) = w ++ " " ++ unwords ws :=
  String.intercalate_cons_of_ne_nil h

theorem words_single {w : String} (hw : isWord w = true) : words w = [w] := by
  obtain ⟨hne, hplain⟩ := isWord_iff.mp hw
  have htext : wordsOf w.toList = [w.toList] := by
    have hends : wordsOf (w.toList ++ []) = [w.toList] := wordsOf_append hplain hne (by simp)
    rwa [List.append_nil] at hends
  simp [words, htext]

theorem words_append {w : String} (hw : isWord w = true) (s : String) :
    words (w ++ " " ++ s) = w :: words s := by
  obtain ⟨hne, hplain⟩ := isWord_iff.mp hw
  have htext : (w ++ " " ++ s).toList = w.toList ++ ' ' :: s.toList := by simp
  rw [words, htext, wordsOf_append hplain hne (by simp [isBlank]), wordsOf_blank (by decide),
    List.map_cons, String.ofList_toList]
  rfl

theorem words_unwords {ws : List String} (h : ∀ w ∈ ws, isWord w = true) :
    words (unwords ws) = ws := by
  induction ws with
  | nil => rfl
  | cons w ws ih =>
    simp only [List.forall_mem_cons] at h
    by_cases hws : ws = []
    · subst hws
      exact words_single h.1
    · rw [unwords_cons w hws, words_append h.1, ih h.2]

inductive Spaced : List String → List Char → Prop
  | blank {cs : List Char} : (∀ c ∈ cs, isBlank c = true) → Spaced [] cs
  | word {before rest : List Char} {w : String} {ws : List String} :
      (∀ c ∈ before, isBlank c = true) → isWord w = true → (∀ c ∈ rest.head?, isBlank c = true) →
      Spaced ws rest → Spaced (w :: ws) (before ++ (w.toList ++ rest))

theorem Spaced.isWord {ws : List String} {cs : List Char} (h : Spaced ws cs) :
    ∀ w ∈ ws, isWord w = true := by
  induction h with
  | blank => simp
  | word _ hw _ _ ih => exact List.forall_mem_cons.mpr ⟨hw, ih⟩

theorem Spaced.words {ws : List String} {s : String} (h : Spaced ws s.toList) : words s = ws := by
  rw [Text.words]
  generalize s.toList = cs at h
  induction h with
  | @blank cs hcs =>
    have hnone := wordsOf_before hcs []
    rw [List.append_nil] at hnone
    rw [hnone]
    rfl
  | word hbefore hw hrest _ ih =>
    obtain ⟨hne, hplain⟩ := isWord_iff.mp hw
    rw [wordsOf_before hbefore, wordsOf_append hplain hne hrest, List.map_cons, ih,
      String.ofList_toList]

theorem Spaced.behind {c : Char} (hc : isBlank c = true) {ws : List String} {cs : List Char}
    (h : Spaced ws cs) : Spaced ws (c :: cs) := by
  cases h with
  | blank hcs => exact .blank (List.forall_mem_cons.mpr ⟨hc, hcs⟩)
  | @word before rest w ws hbefore hw hrest hws =>
    have hblank : ∀ d ∈ c :: before, isBlank d = true := List.forall_mem_cons.mpr ⟨hc, hbefore⟩
    exact .word hblank hw hrest hws

theorem Spaced.begin {w rest : List Char} (hw : ∀ c ∈ w, isBlank c = false)
    (hrest : ∀ c ∈ rest.head?, isBlank c = true) {ws : List String} (h : Spaced ws rest) :
    ∃ ws', Spaced ws' (w ++ rest) := by
  by_cases hne : w = []
  · exact ⟨ws, by rwa [hne]⟩
  · have hword : Text.isWord (String.ofList w) = true := isWord_iff.mpr (by simpa using ⟨hne, hw⟩)
    have hspaced := Spaced.word (List.forall_mem_nil _) hword hrest h
    rw [String.toList_ofList] at hspaced
    exact ⟨_, hspaced⟩

theorem exists_spaced (cs : List Char) : ∃ ws, Spaced ws cs := by
  -- Before the first white space there is a part of a word, which may be empty.
  have hparts : ∃ w rest ws, w ++ rest = cs ∧ (∀ c ∈ w, isBlank c = false) ∧
      (∀ c ∈ rest.head?, isBlank c = true) ∧ Spaced ws rest := by
    induction cs with
    | nil => exact ⟨[], [], [], rfl, by simp, by simp, .blank (by simp)⟩
    | cons c cs ih =>
      obtain ⟨w, rest, ws, rfl, hw, hrest, hspaced⟩ := ih
      cases hc : isBlank c with
      | true =>
        obtain ⟨ws', hws'⟩ := hspaced.begin hw hrest
        exact ⟨[], c :: (w ++ rest), ws', rfl, by simp, by simpa using hc, hws'.behind hc⟩
      | false => exact ⟨c :: w, rest, ws, rfl, List.forall_mem_cons.mpr ⟨hc, hw⟩, hrest, hspaced⟩
  obtain ⟨w, rest, ws, rfl, hw, hrest, hspaced⟩ := hparts
  exact hspaced.begin hw hrest

theorem words_eq_iff {s : String} {ws : List String} : words s = ws ↔ Spaced ws s.toList := by
  refine ⟨fun h => ?_, Spaced.words⟩
  obtain ⟨ws', hspaced⟩ := exists_spaced s.toList
  rwa [← h, hspaced.words]

theorem isWord_of_mem_words {w s : String} (h : w ∈ words s) : isWord w = true :=
  (words_eq_iff.mp rfl).isWord w h

theorem empty_not_mem_words (s : String) : "" ∉ words s := by
  intro hmem
  cases isWord_of_mem_words hmem

theorem unwords_eq_empty {ws : List String} (h : "" ∉ ws) : unwords ws = "" ↔ ws = [] := by
  constructor
  · intro hempty
    cases ws with
    | nil => rfl
    | cons w ws =>
      have hw : w ≠ "" := fun e => h (by simp [e])
      by_cases hws : ws = []
      · subst hws
        exact absurd hempty hw
      · rw [unwords_cons w hws] at hempty
        simp [hw] at hempty
  · rintro rfl
    rfl

theorem trimChars_around {before cs behind : List Char}
    (hbefore : ∀ c ∈ before, isBlank c = true) (hbehind : ∀ c ∈ behind, isBlank c = true) :
    trimChars (before ++ cs ++ behind) = trimChars cs := by
  rw [trimChars, trimChars, List.append_assoc, List.dropWhile_append_of_pos hbefore,
    List.dropWhile_append]
  by_cases hcs : cs.dropWhile isBlank = []
  · simp [hcs, List.dropWhile_eq_nil_iff.mpr hbehind]
  · rw [if_neg (by simpa using hcs), List.reverse_append,
      List.dropWhile_append_of_pos (by simpa using hbehind)]

theorem trim_around {before value behind : String}
    (hbefore : ∀ c ∈ before.toList, isBlank c = true) (hvalue : trim value = value)
    (hbehind : ∀ c ∈ behind.toList, isBlank c = true) :
    trim (before ++ value ++ behind) = value := by
  refine Eq.trans ?_ hvalue
  rw [trim, trim, String.toList_append, String.toList_append, trimChars_around hbefore hbehind]

theorem trimChars_eq_self {cs : List Char} (h : ∀ c ∈ cs, isBlank c = false) :
    trimChars cs = cs := by
  have hstays : ∀ {cs : List Char}, (∀ c ∈ cs, isBlank c = false) → cs.dropWhile isBlank = cs := by
    intro cs h
    cases cs with
    | nil => rfl
    | cons c cs => rw [List.dropWhile_cons_of_neg (by simp [h c])]
  rw [trimChars, hstays h, hstays (by simpa using h), List.reverse_reverse]

theorem trim_eq_self {s : String} (h : ∀ c ∈ s.toList, isBlank c = false) : trim s = s := by
  rw [trim, trimChars_eq_self h, String.ofList_toList]

theorem exists_trimmed (cs : List Char) : ∃ before behind, before ++ trimChars cs ++ behind = cs ∧
    (∀ c ∈ before, isBlank c = true) ∧ ∀ c ∈ behind, isBlank c = true := by
  have hsplit : ∀ cs : List Char, cs.takeWhile isBlank ++ cs.dropWhile isBlank = cs :=
    fun _ => List.takeWhile_append_dropWhile
  have hback := congrArg List.reverse (hsplit (cs.dropWhile isBlank).reverse)
  rw [List.reverse_append, List.reverse_reverse] at hback
  refine ⟨cs.takeWhile isBlank, ((cs.dropWhile isBlank).reverse.takeWhile isBlank).reverse, ?_,
    fun c => List.mem_takeWhile_imp, fun c hc => List.mem_takeWhile_imp (List.mem_reverse.mp hc)⟩
  rw [trimChars, List.append_assoc, hback, hsplit]

theorem words_trim (s : String) : words (trim s) = words s := by
  obtain ⟨before, behind, htext, hbefore, hbehind⟩ := exists_trimmed s.toList
  have hwords : wordsOf s.toList = wordsOf (trimChars s.toList) :=
    calc wordsOf s.toList
      _ = wordsOf (before ++ (trimChars s.toList ++ behind)) := by rw [← List.append_assoc, htext]
      _ = wordsOf (trimChars s.toList ++ behind) := wordsOf_before hbefore _
      _ = wordsOf (trimChars s.toList) := by rw [wordsOf, wordsOf, splitWords_behind hbehind]
  rw [words, words, trim, String.toList_ofList, hwords]

theorem trim_eq_unwords {s : String} (h : (words s).length ≤ 1) : trim s = unwords (words s) := by
  have hspaced : Spaced (words s) s.toList := words_eq_iff.mp rfl
  rw [trim]
  generalize words s = ws at *
  generalize s.toList = cs at hspaced
  cases hspaced with
  | blank hcs =>
    have hnone : trimChars (cs ++ [] ++ []) = [] := trimChars_around hcs (List.forall_mem_nil _)
    rw [List.append_nil, List.append_nil] at hnone
    rw [hnone]
    rfl
  | @word before rest w ws hbefore hw hrest hws =>
    obtain rfl : ws = [] := by simpa using h
    cases hws with
    | blank hbehind =>
      rw [← List.append_assoc, trimChars_around hbefore hbehind,
        trimChars_eq_self (isWord_iff.mp hw).2, String.ofList_toList]
      rfl

theorem decimal_digits {n : Nat} {c : Char} (h : c ∈ (decimal n).toList) : c.isDigit = true := by
  have hrepr : (decimal n).toList = Nat.toDigits 10 n := Nat.toList_repr
  rw [hrepr] at h
  exact Nat.isDigit_of_mem_toDigits (by decide) (by decide) h

theorem decimal_ne_empty (n : Nat) : decimal n ≠ "" := Nat.repr_ne_empty

theorem decimal_inj {n m : Nat} (h : decimal n = decimal m) : n = m := by
  have hdigits : Nat.toDigits 10 n = Nat.toDigits 10 m := String.ofList_injective h
  rw [← Nat.ofDigitChars_ten_toDigits (n := n), hdigits, Nat.ofDigitChars_ten_toDigits]

theorem isBlank_of_visible {c : Char} (h : 33 ≤ c.toNat ∧ c.toNat ≤ 126) : isBlank c = false := by
  simp [isBlank]
  omega

theorem isBlank_of_isDigit {c : Char} (h : c.isDigit = true) : isBlank c = false := by
  have hrange : 48 ≤ c.toNat ∧ c.toNat ≤ 57 := Char.isDigit_iff_toNat.mp h
  exact isBlank_of_visible (by omega)

theorem trim_decimal (n : Nat) : trim (decimal n) = decimal n :=
  trim_eq_self fun _ hc => isBlank_of_isDigit (decimal_digits hc)

theorem isWord_decimal (n : Nat) : isWord (decimal n) = true :=
  isWord_iff.mpr ⟨by simpa using decimal_ne_empty n,
    fun _ hc => isBlank_of_isDigit (decimal_digits hc)⟩

section

theorem toNat_ofNat (n : Nat) : (Char.ofNat n).toNat = n ∨ (Char.ofNat n).toNat = 0 := by
  by_cases hn : n.isValidChar
  · rw [Char.ofNat, dif_pos hn]
    exact .inl rfl
  · rw [Char.ofNat, dif_neg hn]
    exact .inr rfl

theorem toNat_ofNat_of_isDigit {n : Nat} (h : (Char.ofNat n).isDigit = true) : n ≤ 57 := by
  have hrange : 48 ≤ (Char.ofNat n).toNat ∧ (Char.ofNat n).toNat ≤ 57 :=
    Char.isDigit_iff_toNat.mp h
  have hcode := toNat_ofNat n
  omega

theorem apply_not_isDigit {s : Shift} (hs : s ∈ CaseFold.single) {c : Char}
    (hc : s.covers c = true) : (s.apply c).isDigit = false := by
  have hbeyond : ∀ s ∈ CaseFold.single, 57 < (s.first : Int) + s.distance := by decide +kernel
  have hs' := hbeyond s hs
  simp only [Shift.covers, Bool.and_eq_true, decide_eq_true_eq] at hc
  cases hd : (s.apply c).isDigit with
  | false => rfl
  | true =>
    have hle : ((c.toNat : Int) + s.distance).toNat ≤ 57 := toNat_ofNat_of_isDigit hd
    omega

theorem foldChar_not_isDigit {c : Char} (hc : ¬c.toNat < 0x80) :
    ∀ d ∈ foldChar c, d.isDigit = false := by
  have hseveral : ∀ row ∈ CaseFold.several, ∀ code ∈ row.2, (Char.ofNat code).isDigit = false := by
    decide +kernel
  intro d hd
  rw [foldChar, if_neg hc] at hd
  split at hd
  · next code codes hfind =>
    obtain ⟨code', hcode, rfl⟩ := List.mem_map.mp hd
    exact hseveral _ (List.mem_of_find?_eq_some hfind) code' hcode
  · rw [List.mem_singleton.mp hd, shifted]
    split
    · next s hfind =>
      exact apply_not_isDigit (List.mem_of_find?_eq_some hfind)
        (List.find?_some (p := fun s : Shift => s.covers c) hfind)
    · cases hdigit : c.isDigit with
      | false => rfl
      | true =>
        have hrange : 48 ≤ c.toNat ∧ c.toNat ≤ 57 := Char.isDigit_iff_toNat.mp hdigit
        omega

theorem foldChar_ne_nil (c : Char) : foldChar c ≠ [] := by
  have hseveral : ∀ row ∈ CaseFold.several, row.2 ≠ [] := by decide +kernel
  unfold foldChar
  split
  · simp
  · split
    · next hfind => simpa using hseveral _ (List.mem_of_find?_eq_some hfind)
    · simp

theorem toLower_eq_digit {c d : Char} (hd : d.isDigit = true) : c.toLower = d ↔ c = d := by
  have hrange : 48 ≤ d.toNat ∧ d.toNat ≤ 57 := Char.isDigit_iff_toNat.mp hd
  unfold Char.toLower
  split
  · next h =>
    have hupper : 65 ≤ c.toNat ∧ c.toNat ≤ 90 := h
    constructor
    · rintro rfl
      have hmoved : (c.val + 32).toNat ≤ 57 := hrange.2
      rw [UInt32.toNat_add] at hmoved
      have hval : c.toNat = c.val.toNat := rfl
      simp at hmoved
      omega
    · rintro rfl
      omega
  · rfl

theorem foldChar_digit {c : Char} (hc : c.isDigit = true) : foldChar c = [c] := by
  have hrange : 48 ≤ c.toNat ∧ c.toNat ≤ 57 := Char.isDigit_iff_toNat.mp hc
  rw [foldChar, if_pos (by omega), (toLower_eq_digit hc).mpr rfl]

theorem foldChars_eq_digits {cs ds : List Char} (hds : ∀ d ∈ ds, d.isDigit = true) :
    foldChars cs = ds ↔ cs = ds := by
  induction cs generalizing ds with
  | nil => rfl
  | cons c cs ih =>
    have hcons : foldChars (c :: cs) = foldChar c ++ foldChars cs := rfl
    constructor
    · intro h
      rw [hcons] at h
      by_cases hc : c.toNat < 0x80
      · rw [foldChar, if_pos hc, List.singleton_append] at h
        subst h
        simp only [List.forall_mem_cons] at hds
        rw [← (ih hds.2).mp rfl, ← (toLower_eq_digit hds.1).mp rfl]
      · -- Something comes of `c`, and it is no digit.
        obtain ⟨d, hd⟩ := List.exists_mem_of_ne_nil _ (foldChar_ne_nil c)
        have hdigit := hds d (h ▸ List.mem_append_left _ hd)
        rw [foldChar_not_isDigit hc d hd] at hdigit
        cases hdigit
    · rintro rfl
      simp only [List.forall_mem_cons] at hds
      rw [hcons, foldChar_digit hds.1, (ih hds.2).mpr rfl]
      rfl

theorem caseFold_decimal (n : Nat) : caseFold (decimal n) = decimal n := by
  rw [caseFold, (foldChars_eq_digits fun _ hd => decimal_digits hd).mpr rfl, String.ofList_toList]

theorem caseFold_eq_decimal {s : String} {n : Nat} : caseFold s = decimal n ↔ s = decimal n := by
  rw [caseFold, ← String.toList_inj, String.toList_ofList,
    foldChars_eq_digits fun _ hd => decimal_digits hd, String.toList_inj]

end

end Fabula.Text

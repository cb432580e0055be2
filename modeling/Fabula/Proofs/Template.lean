import Mathlib.Data.List.Forall2
import Mathlib.Data.List.TakeWhile
import Fabula.Template

set_option autoImplicit false

namespace Fabula

theorem bind_error {ε α β : Type} {x : Except ε α} {f : α → Except ε β} {e : ε}
    (h : x >>= f = .error e) : x = .error e ∨ ∃ a, x = .ok a ∧ f a = .error e := by
  cases x with
  | error first =>
    have hfirst : first = e := Except.error.inj h
    exact .inl (by rw [hfirst])
  | ok a => exact .inr ⟨a, rfl, h⟩

theorem error_of_bind_pure {ε α β : Type} {x : Except ε α} {f : α → β} {e : ε}
    (h : (x >>= fun a => pure (f a)) = .error e) : x = .error e := by
  rcases bind_error h with hx | ⟨a, -, hnever⟩
  · exact hx
  · cases hnever

theorem error_of_map {ε α β : Type} {f : α → β} {x : Except ε α} {e : ε}
    (h : x.map f = .error e) : x = .error e := by
  cases x with
  | error e' => exact congrArg _ (Except.error.inj h)
  | ok a => cases h

theorem ok_of_map {ε α β : Type} {f : α → β} {x : Except ε α} {b : β} (h : x.map f = .ok b) :
    ∃ a, x = .ok a ∧ f a = b := by
  cases x with
  | error e => cases h
  | ok a => exact ⟨a, rfl, Except.ok.inj h⟩

theorem mapError_eq_ok {ε ε' α : Type} {f : ε → ε'} {x : Except ε α} {a : α} :
    x.mapError f = .ok a ↔ x = .ok a := by
  cases x <;> simp [Except.mapError]

theorem bind_ok {ε α β : Type} {x : Except ε α} {f : α → Except ε β} {b : β}
    (h : x >>= f = .ok b) : ∃ a, x = .ok a ∧ f a = .ok b := by
  cases x with
  | error e => cases h
  | ok a => exact ⟨a, rfl, h⟩

/-- What can be computed of a result shows that there is one. -/
theorem ok_of_any {ε α : Type} {x : Except ε α} {p : α → Bool} (h : x.toOption.any p = true) :
    ∃ a, x = .ok a ∧ p a = true := by
  cases x with
  | error e => cases h
  | ok a => exact ⟨a, rfl, h⟩

theorem exists_of_mapM_error {α β ε : Type} {f : α → Except ε β} {l : List α} {e : ε}
    (h : l.mapM f = .error e) : ∃ x ∈ l, f x = .error e := by
  induction l with
  | nil => cases h
  | cons x l ih =>
    rw [List.mapM_cons] at h
    rcases bind_error h with hx | ⟨y, -, hrest⟩
    · exact ⟨x, by simp, hx⟩
    · obtain ⟨z, hz, hfz⟩ := ih (error_of_bind_pure hrest)
      exact ⟨z, List.mem_cons_of_mem _ hz, hfz⟩

theorem forall₂_of_mapM {α β ε : Type} {f : α → Except ε β} {writes : α → β → Prop} {l : List α}
    (hf : ∀ x ∈ l, ∀ y, f x = .ok y → writes x y) {read : List β} (h : l.mapM f = .ok read) :
    List.Forall₂ writes l read := by
  induction l generalizing read with
  | nil =>
    cases h
    exact .nil
  | cons x l ih =>
    rw [List.mapM_cons] at h
    obtain ⟨y, hy, h⟩ := bind_ok h
    obtain ⟨rest, hrest, h⟩ := bind_ok h
    cases Except.ok.inj h
    exact .cons (hf x (by simp) y hy) (ih (fun z hz => hf z (List.mem_cons_of_mem _ hz)) hrest)

namespace Template

inductive Piece where
  | char (c : Char)
  | field (name : String)
  deriving Repr, DecidableEq

def Field.IsPlain (f : Field) : Bool :=
  f.conversion.isNone && f.layout.isEmpty && !f.nested && !f.name.isEmpty &&
    f.name.all (fun c => c != '.' && c != '[') &&
    match Value.position? f.name with
    | .ok none => true
    | _ => false

def pieces? : Nat → List Char → Option (List Piece)
  | _, [] => some []
  | 0, _ => none
  | fuel + 1, '{' :: '{' :: cs => (pieces? fuel cs).map (.char '{' :: ·)
  | fuel + 1, '}' :: '}' :: cs => (pieces? fuel cs).map (.char '}' :: ·)
  | _ + 1, ['{'] => none
  | fuel + 1, '{' :: cs =>
    match field cs with
    | .ok (f, rest) =>
      if f.IsPlain then (pieces? fuel rest).map (.field (String.ofList f.name) :: ·) else none
    | .error _ => none
  | _ + 1, '}' :: _ => none
  | fuel + 1, c :: cs => (pieces? fuel cs).map (.char c :: ·)

def shownOf (fields : Fields) (name : String) : Except Fault (List Char) :=
  match fields.lookup name with
  | some v => v.plain.map String.toList
  | none => .error (.unknownKey name)

def writeAll (fields : Fields) : List Piece → Except Fault (List Char)
  | [] => pure []
  | .char c :: ps => do pure (c :: (← writeAll fields ps))
  | .field name :: ps => do
    let here ← shownOf fields name
    pure (here ++ (← writeAll fields ps))

theorem Field.write_plain {f : Field} (h : f.IsPlain = true)
    (expand : List Char → Except Fault (List Char)) (fields : Fields) :
    f.write expand fields = shownOf fields (String.ofList f.name) := by
  obtain ⟨name, conversion, layout, nested⟩ := f
  simp only [IsPlain, Bool.and_eq_true, Option.isNone_iff_eq_none, List.isEmpty_iff,
    Bool.not_eq_true', List.isEmpty_eq_false_iff] at h
  obtain ⟨⟨⟨⟨⟨rfl, rfl⟩, rfl⟩, hname⟩, hall⟩, hposition⟩ := h
  have hkey : name.takeWhile (fun c => c != '.' && c != '[') = name :=
    List.takeWhile_eq_self_iff.mpr (List.all_eq_true.mp hall)
  have hnone : Value.position? name = .ok none := by
    cases hp : Value.position? name with
    | error fault => simp [hp] at hposition
    | ok position => cases position <;> simp [hp] at hposition ⊢
  have hvalue : Field.value fields name = match fields.lookup (String.ofList name) with
      | some v => .ok v
      | none => .error (.unknownKey (String.ofList name)) := by
    simp only [Field.value, hkey, hnone, bind, Except.bind, List.drop_length, hname, false_or,
      Option.isSome_none, Bool.false_eq_true, if_false]
    cases fields.lookup (String.ofList name) <;> rfl
  simp only [Field.write, hvalue, shownOf, bind, Except.bind]
  cases fields.lookup (String.ofList name) <;> rfl

theorem fill_of_pieces? (expand : List Char → Except Fault (List Char)) (fields : Fields)
    {fuel : Nat} {cs : List Char} {ps : List Piece} (h : pieces? fuel cs = some ps) :
    fill expand fields fuel cs = writeAll fields ps := by
  induction fuel, cs using fill.induct generalizing ps with
  | case1 fuel =>
    cases fuel <;> simp only [pieces?, Option.some.injEq] at h <;> subst h <;> rfl
  | case2 cs => simp [pieces?] at h
  | case3 fuel cs ih =>
    rw [pieces?] at h
    obtain ⟨qs, hqs, rfl⟩ := Option.map_eq_some_iff.mp h
    rw [fill, writeAll, ih hqs]
  | case4 fuel cs ih =>
    rw [pieces?] at h
    obtain ⟨qs, hqs, rfl⟩ := Option.map_eq_some_iff.mp h
    rw [fill, writeAll, ih hqs]
  | case5 fuel => simp [pieces?] at h
  | case6 fuel cs hdouble hempty ih =>
    rw [pieces?] at h
    rw [fill]
    · cases hfield : field cs with
      | error fault => simp [hfield] at h
      | ok found =>
        obtain ⟨f, rest⟩ := found
        cases hplain : f.IsPlain with
        | false => simp [hfield, hplain] at h
        | true =>
          simp only [hfield, hplain, if_true] at h
          obtain ⟨qs, hqs, rfl⟩ := Option.map_eq_some_iff.mp h
          simp only [bind, Except.bind, Field.write_plain hplain, writeAll, ih rest hqs]
    all_goals assumption
  | case7 fuel cs => simp [pieces?] at h
  | case8 fuel c cs =>
    rename_i ih
    rw [pieces?] at h
    obtain ⟨qs, hqs, rfl⟩ := Option.map_eq_some_iff.mp h
    rw [fill, writeAll, ih hqs]
    all_goals assumption

theorem render_of_pieces? {template : String} {ps : List Piece}
    (h : pieces? template.toList.length template.toList = some ps) (fields : Fields) :
    render template fields = (writeAll fields ps).map String.ofList := by
  rw [render, fill_of_pieces? _ fields h]
  cases writeAll fields ps <;> rfl

theorem plain_error {v : Value} {fault : Fault} (h : v.plain = .error fault) :
    fault = .tooLong ∧ ∃ n, v = .number n ∧ Text.tooLong ≤ n.natAbs := by
  cases v with
  | number n =>
    simp only [Value.plain, Value.shown] at h
    by_cases hn : n.natAbs < Text.tooLong
    · simp [hn] at h
    · simp only [hn, if_false, Except.error.injEq] at h
      exact ⟨h.symm, n, rfl, Nat.le_of_not_lt hn⟩
  | _ => cases h

theorem writeAll_error {fields : Fields} {ps : List Piece} {fault : Fault}
    (h : writeAll fields ps = .error fault) :
    (∃ name, .field name ∈ ps ∧ fields.lookup name = none) ∨
    fault = .tooLong ∧ ∃ name n, .field name ∈ ps ∧ fields.lookup name = some (.number n) ∧
      Text.tooLong ≤ n.natAbs := by
  induction ps with
  | nil => cases h
  | cons p ps ih =>
    have hlater : writeAll fields ps = .error fault →
        (∃ name, .field name ∈ p :: ps ∧ fields.lookup name = none) ∨
        fault = .tooLong ∧ ∃ name n, .field name ∈ p :: ps ∧
          fields.lookup name = some (.number n) ∧ Text.tooLong ≤ n.natAbs := by
      intro hps
      rcases ih hps with ⟨name, hname, hnone⟩ | ⟨hfault, name, n, hname, hn⟩
      · exact .inl ⟨name, List.mem_cons_of_mem _ hname, hnone⟩
      · exact .inr ⟨hfault, name, n, List.mem_cons_of_mem _ hname, hn⟩
    cases p with
    | char c =>
      rcases bind_error h with hps | ⟨cs, -, hnever⟩
      · exact hlater hps
      · cases hnever
    | field name =>
      rcases bind_error h with hhere | ⟨here, -, hrest⟩
      · cases hv : fields.lookup name with
        | none => exact .inl ⟨name, by simp, hv⟩
        | some v =>
          have hplain : v.plain = .error fault := by
            cases hp : v.plain <;> simp [shownOf, hv, hp, Except.map] at hhere ⊢
            exact hhere
          obtain ⟨hfault, n, rfl, hn⟩ := plain_error hplain
          exact .inr ⟨hfault, name, n, by simp, hv, hn⟩
      · rcases bind_error hrest with hps | ⟨cs, -, hnever⟩
        · exact hlater hps
        · cases hnever

end Template

end Fabula

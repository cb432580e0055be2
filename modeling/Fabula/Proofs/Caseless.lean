import Fabula.Proofs.Display

set_option autoImplicit false

namespace Fabula

namespace Text

theorem caseFold_append (s t : String) : caseFold (s ++ t) = caseFold s ++ caseFold t := by
  simp [caseFold, foldChars]

theorem caseFold_eq_empty {s : String} : caseFold s = "" ↔ s = "" := by
  rw [caseFold, String.ofList_eq_empty_iff, foldChars, List.flatMap_eq_nil_iff,
    ← String.toList_eq_nil_iff, List.eq_nil_iff_forall_not_mem]
  simp only [foldChar_ne_nil, imp_false]

theorem caseFold_unwords (ws : List String) :
    caseFold (unwords ws) = unwords (ws.map caseFold) := by
  induction ws with
  | nil => rfl
  | cons w ws ih =>
    by_cases hws : ws = []
    · subst hws
      rfl
    · rw [unwords_cons w hws, caseFold_append, caseFold_append, ih, List.map_cons,
        unwords_cons _ (by simpa using hws)]
      rfl

end Text

/-- Two lines with the same verb, and with arguments that differ in case at most. -/
structure Line.Alike (l l' : Line) : Prop where
  verb : l.verb = l'.verb
  args : l.args.map Text.caseFold = l'.args.map Text.caseFold

section

variable {args args' : List String}

theorem unwords_alike (h : args.map Text.caseFold = args'.map Text.caseFold) :
    Text.caseFold (Text.unwords args) = Text.caseFold (Text.unwords args') := by
  rw [Text.caseFold_unwords, h, ← Text.caseFold_unwords]

/-- A clause splits at the same place in any case. -/
theorem splitFrom_alike (h : args.map Text.caseFold = args'.map Text.caseFold) :
    Text.caseFold (splitFrom args).1 = Text.caseFold (splitFrom args').1 ∧
      (splitFrom args).2.map Text.caseFold = (splitFrom args').2.map Text.caseFold := by
  have hfrom : (fun word => !isFrom word) = (fun word => !(word == "from")) ∘ Text.caseFold := rfl
  constructor
  · refine unwords_alike ?_
    rw [hfrom, ← List.takeWhile_map, h, List.takeWhile_map]
  · have hrest : (args.dropWhile (!isFrom ·)).map Text.caseFold =
        (args'.dropWhile (!isFrom ·)).map Text.caseFold := by
      rw [hfrom, ← List.dropWhile_map, h, List.dropWhile_map]
    simp only [splitFrom]
    generalize args.dropWhile (!isFrom ·) = rest at hrest
    generalize args'.dropWhile (!isFrom ·) = rest' at hrest
    cases rest with
    | nil =>
      rw [List.map_nil, eq_comm, List.map_eq_nil_iff] at hrest
      rw [hrest]
    | cons word source =>
      cases rest' with
      | nil => cases hrest
      | cons word' source' =>
        exact congrArg some (unwords_alike (List.cons.inj hrest).2)

end

section

variable {word word' : String}

theorem means_alike (h : Text.caseFold word = Text.caseFold word') (n : Nat) (name : String) :
    means word n name = means word' n name := by
  have hnumber : word = Text.decimal n ↔ word' = Text.decimal n := by
    rw [← Text.caseFold_eq_decimal, h, Text.caseFold_eq_decimal]
  rw [means, means, Text.sameFolded, Text.sameFolded, h, Bool.eq_iff_iff]
  simp only [Bool.or_eq_true, beq_iff_eq, hnumber]

theorem placeMeant?_alike (h : Text.caseFold word = Text.caseFold word') (n : Nat)
    (names : List String) : placeMeant? word n names = placeMeant? word' n names := by
  induction names generalizing n with
  | nil => rfl
  | cons name names ih => rw [placeMeant?, placeMeant?, means_alike h, ih]

namespace Area

theorem fixture?_alike (h : Text.caseFold word = Text.caseFold word') (a : Area) :
    a.fixture? word = a.fixture? word' := by
  rw [fixture?, fixture?, placeMeant?_alike h]

theorem exitTo?_alike (h : Text.caseFold word = Text.caseFold word') (a : Area) :
    a.exitTo? word = a.exitTo? word' := by
  simp only [exitTo?, Text.sameFolded, h]

theorem exit?_alike (h : Text.caseFold word = Text.caseFold word') (a : Area) :
    a.exit? word = a.exit? word' := by
  simp only [exit?, Text.sameFolded, h]

end Area

namespace Surroundings

variable (s : Surroundings)

theorem itemMeant?_alike (h : Text.caseFold word = Text.caseFold word') (n : Nat)
    (held : Holdings) : s.itemMeant? word n held = s.itemMeant? word' n held := by
  induction held generalizing n with
  | nil => rfl
  | cons row held ih =>
    obtain ⟨id, amount⟩ := row
    simp only [itemMeant?, means_alike h, ih]

theorem itemIn?_alike (h : Text.caseFold word = Text.caseFold word') (place : Place) :
    s.itemIn? place word = s.itemIn? place word' :=
  s.itemMeant?_alike h 1 _

theorem source?_alike (h : Text.caseFold word = Text.caseFold word') :
    s.source? word = s.source? word' := by
  simp only [source?, h, Area.fixture?_alike h]

theorem fixtureTarget?_alike (h : Text.caseFold word = Text.caseFold word') :
    s.fixtureTarget? word = s.fixtureTarget? word' := by
  simp only [fixtureTarget?, Area.fixture?_alike h]

theorem target?_alike {args args' : List String}
    (h : args.map Text.caseFold = args'.map Text.caseFold) : s.target? args = s.target? args' := by
  obtain ⟨hword, hsource⟩ := splitFrom_alike h
  rw [target?, target?]
  generalize splitFrom args = clause at *
  generalize splitFrom args' = clause' at *
  obtain ⟨word, source⟩ := clause
  obtain ⟨word', source'⟩ := clause'
  dsimp only at hword hsource
  have hempty : word = "" ↔ word' = "" := by
    rw [← Text.caseFold_eq_empty, hword, Text.caseFold_eq_empty]
  by_cases hw : word = ""
  · obtain rfl := hw
    obtain rfl := hempty.mp rfl
    rfl
  have hw' : word' ≠ "" := mt hempty.mpr hw
  cases source with
  | none =>
    cases source' with
    | none => simp [s.itemIn?_alike hword, s.fixtureTarget?_alike hword]
    | some source' => cases hsource
  | some source =>
    cases source' with
    | none => cases hsource
    | some source' =>
      have hsource : Text.caseFold source = Text.caseFold source' := Option.some.inj hsource
      have hnone : source = "" ↔ source' = "" := by
        rw [← Text.caseFold_eq_empty, hsource, Text.caseFold_eq_empty]
      by_cases hs : source = ""
      · simp [hs, hnone.mp hs]
      · have hs' : source' ≠ "" := mt hnone.mpr hs
        simp [s.source?_alike hsource, s.itemIn?_alike hword]

end Surroundings

end

namespace Game

variable {args args' : List String}

theorem go_alike (h : args.map Text.caseFold = args'.map Text.caseFold) (g : Game) :
    g.go args = g.go args' := by
  have hword := unwords_alike h
  have hway (area : Area) : (g.direction? (Text.unwords args)).bind area.exit? =
      (g.direction? (Text.unwords args')).bind area.exit? := by
    simp only [direction?, hword]
    split
    · rfl
    · exact area.exit?_alike hword
  simp only [go, Option.bind_eq_bind, hway, hword]

theorem unlock_alike (h : args.map Text.caseFold = args'.map Text.caseFold) (g : Game) :
    g.unlock args = g.unlock args' := by
  simp only [unlock, Area.exitTo?_alike (unwords_alike h)]

theorem dropItem_alike (h : args.map Text.caseFold = args'.map Text.caseFold) (g : Game) :
    g.dropItem args = g.dropItem args' := by
  rw [dropItem, dropItem, Surroundings.itemIn?_alike _ (unwords_alike h)]

theorem takeItem_alike (h : args.map Text.caseFold = args'.map Text.caseFold) (g : Game) :
    g.takeItem args = g.takeItem args' := by
  rw [takeItem, takeItem, Surroundings.target?_alike _ h]

theorem examine_alike (h : args.map Text.caseFold = args'.map Text.caseFold) (g : Game) :
    g.examine args = g.examine args' := by
  rw [examine, examine, Surroundings.target?_alike _ h]

end Game

theorem Verb.deeds_alike {args args' : List String}
    (h : args.map Text.caseFold = args'.map Text.caseFold) (v : Verb) (g : Game) :
    v.deeds args g = v.deeds args' g := by
  cases v with
  | restart | quit | items | look => rfl
  | drop => exact g.dropItem_alike h
  | take => exact g.takeItem_alike h
  | examine => exact g.examine_alike h
  | go => exact g.go_alike h
  | unlock => exact g.unlock_alike h

theorem Line.Alike.deeds? {l l' : Line} (h : l.Alike l') (g : Game) : l.deeds? g = l'.deeds? g := by
  have hnone : l.args.isEmpty = l'.args.isEmpty := by
    rw [← List.isEmpty_map, h.args, List.isEmpty_map]
  simp only [Line.deeds?, h.verb, hnone, Verb.deeds_alike h.args]

namespace Game

theorem traced_alike (topic : Topic) (line line' : String) (step : Game → Outcome)
    (understood : Bool) (g : Game) :
    Answer.Alike ⟨(g.trace topic line).next step, understood⟩
      ⟨(g.trace topic line').next step, understood⟩ where
  understood := rfl
  game := by rw [trace_next, trace_next]
  seen := by
    rw [Outcome.next_seen, Outcome.next_seen, trace_seen, trace_seen]
    rfl
  fault := rfl

/-- Lines that differ in the case of their arguments at most are answered alike in every game. Only
a trace tells them apart. -/
theorem lines_caseless {text text' : String} (h : (Line.ofText text).Alike (Line.ofText text'))
    (g : Game) : (g.execute text).Alike (g.execute text') := by
  by_cases hblank : (Line.ofText text).verb = ""
  · have hblank' : (Line.ofText text').verb = "" := h.verb ▸ hblank
    simp only [execute, hblank, hblank', if_true]
    exact ⟨rfl, rfl, rfl, rfl⟩
  · have hverb : ¬(Line.ofText text').verb = "" := h.verb ▸ hblank
    have hdeeds := h.deeds? g
    simp only [execute, hblank, hverb, if_false]
    cases hd : (Line.ofText text).deeds? g with
    | none =>
      rw [← hdeeds, hd]
      exact g.traced_alike _ _ _ _ false
    | some deeds =>
      rw [← hdeeds, hd]
      exact g.traced_alike _ _ _ _ true

theorem lines_caseless_sample : ∃ o, ofDocument Sample.document .english true = .ok o ∧
    (Line.ofText "take LETTER From wELL").Alike (Line.ofText "Take Letter FROM Well") ∧
    ((o.game.after arrival).execute "take LETTER From wELL").Alike
      ((o.game.after arrival).execute "Take Letter FROM Well") ∧
    ((o.game.after arrival).execute "take LETTER From wELL").outcome.seen =
      [.shown "Took Letter."] := by
  have hrun : (ofDocument Sample.document .english true).toOption.any (fun o =>
      ((o.game.after arrival).execute "take LETTER From wELL").outcome.seen ==
        [.shown "Took Letter."]) = true := by decide +kernel
  obtain ⟨o, ho, hseen⟩ := opens_with hrun
  have halike : (Line.ofText "take LETTER From wELL").Alike (Line.ofText "Take Letter FROM Well") :=
    ⟨by decide +kernel, by decide +kernel⟩
  exact ⟨o, ho, halike, lines_caseless halike _, beq_iff_eq.mp hseen⟩

example : (Line.ofText "go STRASSE").Alike (Line.ofText "go straße") :=
  ⟨by decide +kernel, by decide +kernel⟩

end Game

end Fabula

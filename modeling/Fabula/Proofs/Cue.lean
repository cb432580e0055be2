import Fabula.World.Complaint

set_option autoImplicit false

namespace Fabula

namespace Node

theorem induct {P : Node → Prop} (step : ∀ n, (∀ child ∈ n.children, P child) → P n) (n : Node) :
    P n := by
  refine @Node.rec P (fun nodes => ∀ n ∈ nodes, P n) ?_ ?_ ?_ n
  · intro name attributes value children ih
    exact step _ ih
  · simp
  · intro head tail hhead htail
    simpa using ⟨hhead, htail⟩

/-- The cue of an option lies two levels below the choice. -/
theorem inductTwo {P : Node → Prop}
    (step : ∀ n, (∀ child ∈ n.children, P child ∧ ∀ sub ∈ child.children, P sub) → P n)
    (n : Node) : P n := by
  have both : P n ∧ ∀ child ∈ n.children, P child := by
    induction n using induct with
    | step n ih => exact ⟨step n ih, fun child hc => (ih child hc).1⟩
  exact both.1

theorem tagged_unique {n : Node} {tag other : String} (h : n.tagged tag = true)
    (hne : tag ≠ other) : n.tagged other = false := by
  simp only [tagged, beq_iff_eq] at h
  simp [tagged, h, hne]

theorem attr_of_filled? {n : Node} {key text : String} (h : n.filled? key = some text) :
    n.attr key = text := by
  obtain ⟨ha, -⟩ := Option.filter_eq_some_iff.mp h
  simp [attr, ha]

theorem cue?_eq (n : Node) : n.cue? =
    if n.tagged "text" then some (.narrate n.value)
    else if n.tagged "enter" then some (.enter (n.attr "area"))
    else if n.tagged "continue" then some .pass
    else if n.tagged "select" then some (.choose n.caption (options n.children))
    else none := by
  cases n
  rw [cue?]
  rfl

theorem firstCue_eq (nodes : List Node) : firstCue nodes = (nodes.findSome? cue?).getD .pass := by
  induction nodes with
  | nil => simp [firstCue]
  | cons n nodes ih =>
    rw [firstCue, List.findSome?_cons]
    cases n.cue? with
    | none => simpa using ih
    | some c => rfl

def optionCues (nodes : List Node) : List (String × Cue) :=
  nodes.map fun n => (n.caption, firstCue n.children)

theorem options_eq (nodes : List Node) :
    options nodes = optionCues (nodes.filter (·.tagged "option")) := by
  induction nodes with
  | nil => simp [options, optionCues]
  | cons n nodes ih =>
    cases n with
    | mk name attributes value children =>
      rw [options, List.filter_cons]
      have htag : tagged ⟨name, attributes, value, []⟩ "option" =
        tagged ⟨name, attributes, value, children⟩ "option" := rfl
      rw [htag]
      cases tagged ⟨name, attributes, value, children⟩ "option" with
      | true => simpa [optionCues] using ⟨rfl, ih⟩
      | false => simpa using ih

end Node

namespace Cue

mutual

def targets : Cue → List String
  | .narrate _ | .pass | .act _ => []
  | .enter area => [area]
  | .choose _ options => optionTargets options

def optionTargets : List (String × Cue) → List String
  | [] => []
  | (_, cue) :: options => cue.targets ++ optionTargets options

end

theorem optionTargets_eq (options : List (String × Cue)) :
    optionTargets options = options.flatMap fun option => option.2.targets := by
  induction options with
  | nil => simp [optionTargets]
  | cons option options ih => simp [optionTargets, ih]

theorem mem_of_option? {answer : String} {n : Nat} {options : List (String × Cue)} {cue : Cue}
    (h : option? answer n options = some cue) : ∃ text, (text, cue) ∈ options := by
  induction options generalizing n with
  | nil => simp [option?] at h
  | cons option options ih =>
    obtain ⟨text, first⟩ := option
    rw [option?] at h
    by_cases ha : answer = Nat.repr n ∨ answer = text
    · simp only [ha, if_true, Option.some.injEq] at h
      exact ⟨text, by simp [h]⟩
    · simp only [ha, if_false] at h
      obtain ⟨text', hmem⟩ := ih h
      exact ⟨text', List.mem_cons_of_mem _ hmem⟩

theorem targets_of_reply? {cue follow : Cue} {line : String} (h : cue.reply? line = some follow)
    {id : String} (hid : id ∈ follow.targets) : id ∈ cue.targets := by
  cases cue with
  | choose question options =>
    obtain ⟨text, hmem⟩ := mem_of_option? h
    rw [targets, optionTargets_eq, List.mem_flatMap]
    exact ⟨(text, follow), hmem, hid⟩
  | narrate text => simp [reply?] at h
  | enter area => simp [reply?] at h
  | pass => simp [reply?] at h
  | act action => simp [reply?] at h

mutual

def actions : Cue → List Action
  | .narrate _ | .enter _ | .pass => []
  | .act action => [action]
  | .choose _ options => optionActions options

def optionActions : List (String × Cue) → List Action
  | [] => []
  | (_, cue) :: options => cue.actions ++ optionActions options

end

theorem optionActions_eq (options : List (String × Cue)) :
    optionActions options = options.flatMap fun option => option.2.actions := by
  induction options with
  | nil => simp [optionActions]
  | cons option options ih => simp [optionActions, ih]

theorem actions_of_reply? {cue follow : Cue} {line : String} (h : cue.reply? line = some follow)
    {action : Action} (ha : action ∈ follow.actions) : action ∈ cue.actions := by
  cases cue with
  | choose question options =>
    obtain ⟨text, hmem⟩ := mem_of_option? h
    rw [actions, optionActions_eq, List.mem_flatMap]
    exact ⟨(text, follow), hmem, ha⟩
  | _ => simp [reply?] at h

end Cue

namespace Node

/-- What a node can write: only a choice leads to further cues. -/
theorem cue?_cases {n : Node} {cue : Cue} (h : n.cue? = some cue) :
    (∃ text, cue = .narrate text) ∨ (∃ area, cue = .enter area) ∨ cue = .pass ∨
      cue = .choose n.caption (optionCues (n.children.filter (·.tagged "option"))) := by
  rw [cue?_eq] at h
  split at h
  · exact .inl ⟨_, (Option.some.inj h).symm⟩
  · split at h
    · exact .inr (.inl ⟨_, (Option.some.inj h).symm⟩)
    · split at h
      · exact .inr (.inr (.inl (Option.some.inj h).symm))
      · split at h
        · rw [options_eq] at h
          exact .inr (.inr (.inr (Option.some.inj h).symm))
        · cases h

/-- The cue of an option passes, or is written below the option. -/
theorem firstCue_cases (nodes : List Node) :
    firstCue nodes = .pass ∨ ∃ n ∈ nodes, n.cue? = some (firstCue nodes) := by
  rw [firstCue_eq]
  cases hfirst : nodes.findSome? cue? with
  | none => exact .inl rfl
  | some cue => exact .inr (List.exists_of_findSome?_eq_some hfirst)

theorem actions_of_written (n : Node) : ∀ cue, n.cue? = some cue → cue.actions = [] := by
  induction n using inductTwo with
  | step n ih =>
    intro cue hcue
    rcases cue?_cases hcue with ⟨text, rfl⟩ | ⟨area, rfl⟩ | rfl | rfl
    · simp [Cue.actions]
    · simp [Cue.actions]
    · simp [Cue.actions]
    · rw [Cue.actions, Cue.optionActions_eq, List.flatMap_eq_nil_iff]
      intro entry hentry
      obtain ⟨option, hoption, rfl⟩ := List.mem_map.mp hentry
      rcases firstCue_cases option.children with hpass | ⟨sub, hsub, hsome⟩
      · simp [hpass, Cue.actions]
      · exact (ih option (List.mem_filter.mp hoption).1).2 sub hsub _ hsome

theorem cueComplaints_eq (areas : List String) (scene : Option String) (n : Node) :
    cueComplaints areas scene n =
      if n.tagged "enter" then
        match n.filled? "area" with
        | none => [.enterNothing scene]
        | some area => if area ∈ areas then [] else [.enterMissing scene area]
      else if n.tagged "select" || n.tagged "option" then cuesComplaints areas scene n.children
      else [] := by
  cases n
  rw [cueComplaints]
  rfl

theorem cuesComplaints_eq (areas : List String) (scene : Option String) (nodes : List Node) :
    cuesComplaints areas scene nodes = nodes.flatMap (cueComplaints areas scene) := by
  induction nodes with
  | nil => simp [cuesComplaints]
  | cons n nodes ih => simp [cuesComplaints, ih]

/-- The checks go through every option, and so they cover the one cue that is kept of it. -/
theorem targets_of_no_complaint {areas : List String} {scene : Option String} (n : Node) :
    cueComplaints areas scene n = [] → ∀ cue, n.cue? = some cue →
      ∀ id ∈ cue.targets, id ∈ areas := by
  induction n using inductTwo with
  | step n ih =>
    intro hnone cue hcue id hid
    rw [cue?_eq] at hcue
    rw [cueComplaints_eq] at hnone
    by_cases htext : n.tagged "text" = true
    · simp only [htext, if_true, Option.some.injEq] at hcue
      simp [← hcue, Cue.targets] at hid
    by_cases henter : n.tagged "enter" = true
    · simp only [htext, henter, if_true, Bool.false_eq_true, if_false,
        Option.some.injEq] at hcue hnone
      subst hcue
      simp only [Cue.targets, List.mem_singleton] at hid
      cases harea : n.filled? "area" with
      | none => simp [harea] at hnone
      | some area =>
        rw [attr_of_filled? harea] at hid
        simpa [harea, hid] using hnone
    by_cases hpass : n.tagged "continue" = true
    · simp only [htext, henter, hpass, if_true, Bool.false_eq_true, if_false,
        Option.some.injEq] at hcue
      simp [← hcue, Cue.targets] at hid
    by_cases hselect : n.tagged "select" = true
    · simp only [htext, henter, hpass, hselect, if_true, Bool.false_eq_true, if_false,
        Option.some.injEq, Bool.true_or, cuesComplaints_eq, List.flatMap_eq_nil_iff] at hcue hnone
      subst hcue
      rw [Cue.targets, Cue.optionTargets_eq, options_eq, List.mem_flatMap] at hid
      obtain ⟨entry, hentry, hid⟩ := hid
      obtain ⟨option, hoption, rfl⟩ := List.mem_map.mp hentry
      obtain ⟨hchild, htag⟩ := List.mem_filter.mp hoption
      have hbelow : ∀ sub ∈ option.children, cueComplaints areas scene sub = [] := by
        have h := hnone option hchild
        rw [cueComplaints_eq] at h
        simpa [tagged_unique htag (by decide : "option" ≠ "enter"), htag, cuesComplaints_eq] using h
      rw [firstCue_eq] at hid
      cases hfirst : option.children.findSome? cue? with
      | none => simp [hfirst, Cue.targets] at hid
      | some first =>
        obtain ⟨sub, hsub, hsome⟩ := List.exists_of_findSome?_eq_some hfirst
        rw [hfirst] at hid
        exact (ih option hchild).2 sub hsub (hbelow sub hsub) first hsome id hid
    · simp [htext, henter, hpass, hselect] at hcue

end Node

end Fabula

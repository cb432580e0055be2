import Fabula.Catalogue.English
import Fabula.Proofs.Reach
import Fabula.Proofs.Template

set_option autoImplicit false

namespace Fabula

/-- Whether a catalogue has a plain template under a key, with no other fields than these. -/
def Catalogue.knows (c : Catalogue) (key : String) (names : List String) : Bool :=
  match Table.get? c key with
  | none => false
  | some template =>
    match Template.pieces? template.toList.length template.toList with
    | none => false
    | some ps => ps.all fun
      | .char _ => true
      | .field name => names.contains name

theorem Catalogue.of_knows {c : Catalogue} {key : String} {names : List String}
    (h : c.knows key names = true) : ∃ template ps, Table.get? c key = some template ∧
      Template.pieces? template.toList.length template.toList = some ps ∧
      ∀ name, .field name ∈ ps → name ∈ names := by
  unfold knows at h
  cases ht : Table.get? c key with
  | none => simp [ht] at h
  | some template =>
    cases hp : Template.pieces? template.toList.length template.toList with
    | none => simp [ht, hp] at h
    | some ps =>
      simp only [ht, hp, List.all_eq_true] at h
      exact ⟨template, ps, rfl, hp, fun name hname => List.contains_iff_mem.mp (h _ hname)⟩

def Filler.IsAmount : Filler → Bool
  | .number _ => true
  | .text _ | .place _ | .article _ => false

def articleFor (n : Int) : String := if 1 < n then "some" else "one"

@[simp] def Filler.english : Filler → String
  | .text s => s
  | .number n => Text.decimal n
  | .place n => Text.decimal n
  | .article n => articleFor n

namespace Game

theorem say_shown {g : Game} (key : String) (henglish : g.catalogue = .english) {text : String}
    (h : Table.get? Catalogue.english key = some text) :
    (Deed.say key).perform g = g.display text := by
  rw [Deed.perform, message, henglish, h]
  rfl

theorem filler_english {g : Game} (hg : g.catalogue = .english) (f : Filler) :
    ∃ v, g.filler f = .ok v ∧ (∀ n, v = .number n → f = .number n) ∧
      (f.IsAmount = false → v.plain = .ok f.english) := by
  cases f with
  | text s => exact ⟨.text s, rfl, by simp, fun _ => rfl⟩
  | number n => exact ⟨.number n, rfl, by simp, by simp [Filler.IsAmount]⟩
  | place n => exact ⟨.place n, rfl, by simp, fun _ => rfl⟩
  | article n =>
    have hword : g.message (if 1 < n then "article_some" else "article_one") =
        .ok (articleFor n) := by
      rw [message, hg, articleFor]
      by_cases hn : 1 < n
      · simp only [hn, if_true]
        rfl
      · simp only [hn, if_false]
        rfl
    refine ⟨.text (articleFor n), ?_, by simp, fun _ => rfl⟩
    simp only [filler, hword]
    rfl

theorem fields_english {g : Game} (hg : g.catalogue = .english) (fs : List (String × Filler)) :
    ∃ vs, g.fields fs = .ok vs ∧
      ∀ name, vs.lookup name = (fs.lookup name).bind fun f => (g.filler f).toOption := by
  induction fs with
  | nil => exact ⟨[], rfl, fun _ => rfl⟩
  | cons field fs ih =>
    obtain ⟨key, f⟩ := field
    obtain ⟨v, hv, -⟩ := filler_english hg f
    obtain ⟨vs, hvs, hlookup⟩ := ih
    refine ⟨(key, v) :: vs, by simp only [fields, hv, hvs]; rfl, fun name => ?_⟩
    rw [List.lookup_cons, List.lookup_cons]
    cases name == key with
    | true =>
      simp only [Option.bind_some, hv]
      rfl
    | false => exact hlookup name

theorem filled_english {g : Game} (hg : g.catalogue = .english) {key : String}
    {fs : List (String × Filler)} (h : Catalogue.english.knows key (fs.map (·.1)) = true) :
    (∃ text, g.filled key fs = .ok text) ∨
    g.filled key fs = .error (.template .tooLong) ∧
      ∃ name n, (name, .number n) ∈ fs ∧ Text.tooLong ≤ n.natAbs := by
  obtain ⟨template, ps, ht, hps, hnames⟩ := Catalogue.of_knows h
  obtain ⟨vs, hvs, hvalues⟩ := fields_english hg fs
  have hmessage : g.message key = .ok template := by
    rw [message, hg, ht]
    rfl
  have hfilled : g.filled key fs = render template vs := by
    simp only [filled, hmessage, hvs]
    rfl
  rw [hfilled, render, Template.render_of_pieces? hps]
  cases hw : Template.writeAll vs ps with
  | ok cs => exact .inl ⟨_, rfl⟩
  | error fault =>
    rcases Template.writeAll_error hw with ⟨name, hname, hnone⟩ | ⟨rfl, name, n, -, hlookup, hn⟩
    · obtain ⟨field, hfield, rfl⟩ := List.mem_map.mp (hnames name hname)
      rw [hvalues, Option.bind_eq_none_iff] at hnone
      cases hf : fs.lookup field.1 with
      | none => exact absurd rfl (bne_iff_ne.mp (List.lookup_eq_none_iff.mp hf field hfield))
      | some f =>
        obtain ⟨v, hv, -⟩ := filler_english hg f
        exact absurd (hnone f hf) (by rw [hv]; exact Option.some_ne_none v)
    · rw [hvalues, Option.bind_eq_some_iff] at hlookup
      obtain ⟨f, hf, hnumber⟩ := hlookup
      obtain ⟨v, hv, hamount, -⟩ := filler_english hg f
      rw [hv] at hnumber
      rw [hamount n (Option.some.inj hnumber)] at hf
      obtain ⟨before, after, rfl, -⟩ := List.lookup_eq_some_iff.mp hf
      exact .inr ⟨rfl, name, n, by simp, hn⟩

theorem render_option (i : Nat) (text : String) :
    render "{index} - {text}" [("index", .place i), ("text", .text text)] =
      .ok (Nat.repr i ++ " - " ++ text) := by
  have h : Template.render "{index} - {text}" [("index", .place i), ("text", .text text)] =
    .ok (String.ofList ((Nat.repr i).toList ++ (' ' :: '-' :: ' ' :: (text.toList ++ [])))) := rfl
  rw [render, h]
  simp [String.ext_iff]

theorem quitQuestion_english {g : Game} (hg : g.catalogue = .english) :
    g.quitQuestion = .ok (.choose "Are you sure?" [("yes", .act .finish), ("no", .pass)]) := by
  simp only [quitQuestion, message, hg]
  rfl

end Game

/-- Deeds that can always be done when the messages are in English: what they say is known, and no
amount is written. -/
def Deed.IsSmooth : Deed → Bool
  | tell _ | offer .. | carry .. | enter _ | walk .. | forgetHeading | unlock _ | askToQuit
  | finish | note (.line ..) => true
  | say key => (Table.get? Catalogue.english key).isSome
  | fill key fields =>
    Catalogue.english.knows key (fields.map (·.1)) && fields.all fun field => !field.2.IsAmount
  | restart | stumble | note .bag | note .bagAndGround => false

theorem Deed.perform_catalogue (d : Deed) (g : Game) :
    (d.perform g).game.catalogue = g.catalogue := by
  cases d with
  | carry item source target => exact (Game.SameStory.carry g item source target).catalogue
  | restart => exact (Game.SameStory.reset g).catalogue
  | unlock position =>
    rw [perform]
    cases g.session.area <;> rfl
  | askToQuit =>
    rw [perform]
    cases g.quitQuestion <;> rfl
  | enter area => rfl
  | walk direction area => rfl
  | forgetHeading => rfl
  | finish => rfl
  | _ => rw [perform_quiet rfl]

theorem Deed.perform_smooth {d : Deed} (hd : d.IsSmooth = true) {g : Game}
    (hg : g.catalogue = .english) : (d.perform g).fault = none := by
  cases d with
  | say key =>
    obtain ⟨text, ht⟩ := Option.isSome_iff_exists.mp hd
    rw [perform, Game.message, hg, ht]
    rfl
  | fill key fields =>
    simp only [IsSmooth, Bool.and_eq_true, List.all_eq_true] at hd
    rw [perform]
    rcases Game.filled_english hg hd.1 with ⟨text, ht⟩ | ⟨-, name, n, hmem, -⟩
    · rw [ht]
      rfl
    · exact absurd (hd.2 _ hmem) (by simp [Filler.IsAmount])
  | offer number text =>
    have ht : g.catalogue.optionTemplate = "{index} - {text}" := by rw [hg]; rfl
    rw [perform, ht, Game.render_option]
    rfl
  | askToQuit =>
    rw [perform, Game.quitQuestion_english hg]
    rfl
  | unlock position =>
    rw [perform]
    cases g.session.area <;> rfl
  | note n =>
    cases n with
    | line text => rfl
    | bag => cases hd
    | bagAndGround => cases hd
  | restart => cases hd
  | stumble => cases hd
  | _ => rfl

theorem performAll_smooth {ds : List Deed} (h : ∀ d ∈ ds, d.IsSmooth = true) {g : Game}
    (hg : g.catalogue = .english) : (performAll ds g).fault = none := by
  induction ds generalizing g with
  | nil => rfl
  | cons d ds ih =>
    simp only [List.forall_mem_cons] at h
    rw [performAll_cons, Outcome.next_fault, Deed.perform_smooth h.1 hg]
    exact ih h.2 ((d.perform_catalogue g).trans hg)

def Catalogue.forms : List (String × List String) := [
  ("inventory_entry", ["item", "amount"]), ("dropped", ["item"]), ("taken", ["item"]),
  ("already_carried", ["item"]), ("prop_contents", ["prop"]), ("prop_empty", ["prop"]),
  ("prop_entry", ["article", "item", "index"]), ("look_item", ["article", "item", "index"]),
  ("look_prop", ["prop", "index"]), ("look_connection", ["type", "direction"]),
  ("moved", ["direction"]), ("blocked", ["type", "direction"]), ("opened", ["type", "direction"]),
  ("already_open", ["type", "direction"]), ("needs_key", ["item", "type", "direction"])]

theorem Catalogue.forms_known :
    ∀ form ∈ Catalogue.forms, Catalogue.english.knows form.1 form.2 = true := by
  decide +kernel

theorem Deed.fill_smooth {key : String} {fields : List (String × Filler)}
    (hform : (key, fields.map (·.1)) ∈ Catalogue.forms)
    (hplain : (fields.all fun field => !field.2.IsAmount) = true) :
    (fill key fields).IsSmooth = true := by
  have hknown : Catalogue.english.knows key (fields.map (·.1)) = true :=
    Catalogue.forms_known _ hform
  rw [IsSmooth, hknown, hplain]
  rfl

namespace Game

theorem listing_smooth (g : Game) {key : String} (h : Holdings)
    (hform : (key, ["article", "item", "index"]) ∈ Catalogue.forms) :
    ∀ d ∈ g.listing key h, d.IsSmooth = true := by
  intro d hd
  obtain ⟨i, hi, rfl⟩ := List.mem_mapIdx.mp hd
  exact Deed.fill_smooth hform rfl

theorem examine_smooth (g : Game) (args : List String) :
    ∀ d ∈ g.examine args, d.IsSmooth = true := by
  unfold examine
  cases g.surroundings.target? args with
  | none =>
    intro d hd
    rw [List.mem_singleton.mp hd]
    rfl
  | some target =>
    cases target with
    | item item place => simp [Deed.IsSmooth]
    | fixture i f =>
      intro d hd
      rcases List.mem_append.mp hd with hd | hd
      · by_cases he : f.description = "" <;> simp [he] at hd
        simp [hd, Deed.IsSmooth]
      · by_cases he : f.items = []
        · simp only [he, if_true, List.mem_singleton] at hd
          rw [hd]
          exact Deed.fill_smooth (by simp [Catalogue.forms]) rfl
        · simp only [he, if_false, List.mem_cons] at hd
          rcases hd with rfl | hd
          · exact Deed.fill_smooth (by simp [Catalogue.forms]) rfl
          · exact g.listing_smooth f.items (by simp [Catalogue.forms]) d hd

theorem look_smooth (g : Game) : ∀ d ∈ g.look, d.IsSmooth = true := by
  unfold look
  cases g.area? with
  | none => simp
  | some area =>
    intro d hd
    simp only [List.cons_append, List.mem_cons, List.mem_append] at hd
    rcases hd with rfl | (hd | hd) | hd
    · rfl
    · obtain ⟨i, hi, rfl⟩ := List.mem_mapIdx.mp hd
      exact Deed.fill_smooth (by simp [Catalogue.forms]) rfl
    · obtain ⟨e, -, rfl⟩ := List.mem_map.mp hd
      exact Deed.fill_smooth (by simp [Catalogue.forms]) rfl
    · exact g.listing_smooth area.items (by simp [Catalogue.forms]) d hd

theorem go_smooth (g : Game) (args : List String) : ∀ d ∈ g.go args, d.IsSmooth = true := by
  intro d hd
  rcases List.mem_append.mp hd with hd | hd
  · split at hd
    · rw [List.mem_singleton.mp hd]
      rfl
    · split at hd
      · simp only [List.mem_cons, List.not_mem_nil, or_false] at hd
        rcases hd with rfl | rfl | rfl
        · exact Deed.fill_smooth (by simp [Catalogue.forms]) rfl
        · rfl
        · rfl
      · rw [List.mem_singleton.mp hd]
        exact Deed.fill_smooth (by simp [Catalogue.forms]) rfl
  · split at hd
    · rw [List.mem_singleton.mp hd]
      rfl
    · cases hd

theorem unlock_smooth (g : Game) (args : List String) : ∀ d ∈ g.unlock args, d.IsSmooth = true := by
  intro d hd
  simp only [unlock] at hd
  split at hd
  · rw [List.mem_singleton.mp hd]
    rfl
  · next area i e _ =>
    split at hd
    · rw [List.mem_singleton.mp hd]
      exact Deed.fill_smooth (by simp [Catalogue.forms]) rfl
    · split at hd
      · rw [List.mem_singleton.mp hd]
        exact Deed.fill_smooth (by simp [Catalogue.forms]) rfl
      · simp only [List.mem_cons, List.not_mem_nil, or_false] at hd
        rcases hd with rfl | rfl | rfl
        · rfl
        · rfl
        · exact Deed.fill_smooth (by simp [Catalogue.forms]) rfl

end Game

end Fabula

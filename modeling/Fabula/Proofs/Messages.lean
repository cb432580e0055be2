import Fabula.Proofs.Opening
import Fabula.Proofs.Table

set_option autoImplicit false

namespace Fabula.Catalogue

open Yaml (Breakdown)
open Text (Wide)

/-- The messages that a document holds: those of a mapping, by the texts of its keys, or none where
nothing stands in it. -/
inductive HeldBy (deepestShown : Nat) (d : Yaml.Document) : Catalogue → Prop where
  | mapping {es : List (Yaml.Value × Yaml.Value)} {rows messages : Table Wide Wide} :
      d.value.compound? d.compounds = some (.mapping es) →
      List.Forall₂ (fun e row => e.1.plain d.compounds deepestShown = .ok row.1 ∧
        e.2.plain d.compounds deepestShown = .ok row.2) es rows →
      Table.Collects rows messages → HeldBy deepestShown d (Wide.strings messages)
  | nothing : d.value.Vacant d.compounds → HeldBy deepestShown d []

/-- A document that can hold no messages: something else than a mapping stands in it. -/
def Foreign (d : Yaml.Document) : Prop :=
  (∀ es, d.value.compound? d.compounds ≠ some (.mapping es)) ∧ ¬d.value.Vacant d.compounds

section

variable (r : Readers) (f : Folder) (language : String)

def IsIn (c : Catalogue) : Prop :=
  ∃ octets d, f.read (pathFor language) = .ok octets ∧ r.yamlFile octets = .ok d ∧
    HeldBy r.deepestShown d c

inductive Faulty : Problem → Prop where
  | missing : f.read (pathFor language) = .error .absent →
      Faulty (.missing (Path.lastName (pathFor language)))
  | notYaml {octets : ByteArray} {fault : Yaml.Fault} :
      f.read (pathFor language) = .ok octets → r.yamlFile octets = .error fault →
      (∀ b, fault ≠ .breakdown b) →
      Faulty (.notYaml (Path.lastName (pathFor language)) fault.message)
  | notMapping {octets : ByteArray} {d : Yaml.Document} :
      f.read (pathFor language) = .ok octets → r.yamlFile octets = .ok d → Foreign d →
      Faulty (.notMapping (Path.lastName (pathFor language)))

inductive BreaksOff : Mishap → Prop where
  | denied {d : Denied} : f.read (pathFor language) = .error d → d ≠ .absent →
      BreaksOff (.denied d)
  | notText {octets : ByteArray} {b : Breakdown} : f.read (pathFor language) = .ok octets →
      String.fromUTF8? octets = none → r.yamlFile octets = .error (.breakdown b) →
      BreaksOff (.refused (.breakdown b))
  /-- The reader of documents has no value for the text, and does not say that it is malformed. -/
  | reader {octets : ByteArray} {text : String} {b : Breakdown} :
      f.read (pathFor language) = .ok octets → String.fromUTF8? octets = some text →
      r.yamlFile octets = .error (.breakdown b) → BreaksOff (.refused (.breakdown b))
  /-- A key or a message cannot be written as a text. -/
  | value {octets : ByteArray} {d : Yaml.Document} {es : List (Yaml.Value × Yaml.Value)}
      {u : Yaml.Value} {b : Breakdown} : f.read (pathFor language) = .ok octets →
      r.yamlFile octets = .ok d → d.value.compound? d.compounds = some (.mapping es) →
      (∃ e ∈ es, u = e.1 ∨ u = e.2) → u.Unfit d.compounds r.deepestShown b →
      BreaksOff (.refused (.breakdown b))

end

section

variable {deepestShown : Nat} {d : Yaml.Document}

theorem ofDocument?_mapping {es : List (Yaml.Value × Yaml.Value)}
    (hes : d.value.compound? d.compounds = some (.mapping es)) :
    ofDocument? deepestShown d = ((es.mapM fun e => do
      let key ← e.1.plain d.compounds deepestShown
      pure (key, ← e.2.plain d.compounds deepestShown)) >>= fun rows =>
        pure (some (Wide.strings (Table.ofRows rows)))) := by
  rw [ofDocument?, hes]

theorem ofDocument?_other (hes : ∀ es, d.value.compound? d.compounds ≠ some (.mapping es)) :
    ofDocument? deepestShown d =
      .ok (((d.value.parts? d.compounds).filter (·.isEmpty)).map fun _ => []) := by
  rw [ofDocument?]
  split
  · next es h => exact absurd h (hes es)
  · rfl

theorem ofDocument?_ok {c : Catalogue} (h : ofDocument? deepestShown d = .ok (some c)) :
    HeldBy deepestShown d c := by
  by_cases hes : ∃ es, d.value.compound? d.compounds = some (.mapping es)
  · obtain ⟨es, hes⟩ := hes
    rw [ofDocument?_mapping hes] at h
    obtain ⟨rows, hrows, hc⟩ := bind_ok h
    obtain rfl := Option.some.inj (Except.ok.inj hc)
    refine .mapping hes (forall₂_of_mapM (fun e _ row hrow => ?_) hrows)
      (Table.ofRows_collects rows)
    obtain ⟨key, hkey, hrow⟩ := bind_ok hrow
    obtain ⟨text, htext, hrow⟩ := bind_ok hrow
    obtain rfl := Except.ok.inj hrow
    exact ⟨hkey, htext⟩
  · rw [ofDocument?_other (not_exists.mp hes)] at h
    obtain ⟨us, hus, rfl⟩ := Option.map_eq_some_iff.mp (Except.ok.inj h)
    obtain ⟨hparts, hnone⟩ := Option.filter_eq_some_iff.mp hus
    rw [List.isEmpty_iff.mp hnone] at hparts
    exact .nothing (Yaml.Value.parts?_eq_nil.mp hparts)

theorem ofDocument?_none (h : ofDocument? deepestShown d = .ok none) : Foreign d := by
  have hes : ∀ es, d.value.compound? d.compounds ≠ some (.mapping es) := by
    intro es hes
    rw [ofDocument?_mapping hes] at h
    obtain ⟨rows, -, hsome⟩ := bind_ok h
    cases hsome
  refine ⟨hes, fun hvacant => ?_⟩
  rw [ofDocument?_other hes, Yaml.Value.parts?_eq_nil.mpr hvacant] at h
  cases h

theorem ofDocument?_error (hd : d.Whole) {b : Breakdown}
    (h : ofDocument? deepestShown d = .error b) :
    ∃ es, d.value.compound? d.compounds = some (.mapping es) ∧
      ∃ u, (∃ e ∈ es, u = e.1 ∨ u = e.2) ∧ u.Unfit d.compounds deepestShown b := by
  by_cases hes : ∃ es, d.value.compound? d.compounds = some (.mapping es)
  · obtain ⟨es, hes⟩ := hes
    rw [ofDocument?_mapping hes] at h
    obtain ⟨e, he, hrow⟩ := exists_of_mapM_error (error_of_bind_pure h)
    have hbroken : ∃ u, (u = e.1 ∨ u = e.2) ∧ u.plain d.compounds deepestShown = .error b := by
      rcases bind_error hrow with hkey | ⟨_, -, htext⟩
      · exact ⟨e.1, .inl rfl, hkey⟩
      · exact ⟨e.2, .inr rfl, error_of_bind_pure htext⟩
    obtain ⟨u, hu, hplain⟩ := hbroken
    obtain ⟨n, -, hn⟩ := Yaml.Value.compound?_eq_some.mp hes
    have hknown := hd.compounds.member hn (Yaml.Compound.mem_entry he hu)
    exact ⟨es, hes, u, ⟨e, he, hu⟩,
      Yaml.Value.shown_error hd.compounds hknown (Yaml.Value.plain_error hplain)⟩
  · rw [ofDocument?_other (not_exists.mp hes)] at h
    cases h

end

section

variable {r : Readers} {f : Folder} {language : String}

theorem Faulty.reported {p : Problem} (h : Faulty r f language p) :
    ∃ line, p.report? = some line ∧ IsError line := by
  cases h with
  | missing =>
    have hstart : IsError "ERROR: Missing file '" := ⟨"Missing file '", rfl⟩
    exact ⟨_, rfl, (hstart.append _).append _⟩
  | notYaml =>
    have hstart : IsError "ERROR: Invalid YAML in '" := ⟨"Invalid YAML in '", rfl⟩
    exact ⟨_, rfl, ((hstart.append _).append _).append _⟩
  | notMapping =>
    have hstart : IsError "ERROR: Message catalogue '" := ⟨"Message catalogue '", rfl⟩
    exact ⟨_, rfl, (hstart.append _).append _⟩

inductive Loads (r : Readers) (f : Folder) (language : String) :
    Except Problem Catalogue → Prop where
  | held {c : Catalogue} : IsIn r f language c → Loads r f language (.ok c)
  | faulty {p : Problem} : Faulty r f language p → Loads r f language (.error p)
  | broken {m : Mishap} : BreaksOff r f language m → Loads r f language (.error (.mishap m))

theorem breaksOff_of_breakdown {octets : ByteArray} {b : Breakdown}
    (hread : f.read (pathFor language) = .ok octets)
    (hb : r.yamlFile octets = .error (.breakdown b)) :
    BreaksOff r f language (.refused (.breakdown b)) := by
  cases htext : String.fromUTF8? octets with
  | none => exact .notText hread htext hb
  | some text => exact .reader hread htext hb

theorem load_loads (r : SoundReaders) (f : Folder) (language : String) :
    Loads r.toReaders f language (load f language r.toReaders) := by
  cases hread : f.read (pathFor language) with
  | error d =>
    simp only [load, hread]
    cases d with
    | absent => exact .faulty (.missing hread)
    | _ => exact .broken (.denied hread (by simp))
  | ok octets =>
    cases hin : r.yamlFile octets with
    | error fault =>
      simp only [load, hread, hin]
      cases fault with
      | breakdown b => exact .broken (breaksOff_of_breakdown hread hin)
      | _ => exact .faulty (.notYaml hread hin (by simp))
    | ok d =>
      simp only [load, hread, hin]
      cases hheld : ofDocument? r.deepestShown d with
      | error b =>
        obtain ⟨es, hes, u, hu, hunfit⟩ := ofDocument?_error (r.wholeFile hin) hheld
        exact .broken (.value hread hin hes hu hunfit)
      | ok c? =>
        cases c? with
        | none => exact .faulty (.notMapping hread hin (ofDocument?_none hheld))
        | some c => exact .held ⟨octets, d, hread, hin, ofDocument?_ok hheld⟩

end

/-- Of the file for a language, the messages are loaded that it holds; or what is wrong with it is
reported in a single line that tells of an error, and no game opens; or loading breaks off without
a report. Then the path leads to no file, though not for want of one, or something in the file is
no text, or there is a document that its reader has no value for, or a key or a message in which
there is an integer too long to be written, or compounds too deep to be followed. -/
theorem messages_reported (r : SoundReaders) (f : Folder) (language : String) :
    let loaded := load f language r.toReaders
    (∃ c, loaded = .ok c ∧ IsIn r.toReaders f language c) ∨
    (∃ p line, loaded = .error p ∧ Faulty r.toReaders f language p ∧ p.report? = some line ∧
      IsError line ∧ ∀ path document traced,
        Opening.ofSources loaded path document traced = Opening.refused [line] "") ∨
    ∃ m, loaded = .error (.mishap m) ∧ BreaksOff r.toReaders f language m ∧
      (Problem.mishap m).report? = none ∧ ∀ path document traced,
        Opening.ofSources loaded path document traced = Opening.broken m := by
  have hloads := load_loads r f language
  generalize load f language r.toReaders = loaded at hloads
  cases hloads with
  | @held c hc => exact .inl ⟨c, rfl, hc⟩
  | @faulty p hp =>
    obtain ⟨line, hline, herror⟩ := hp.reported
    refine .inr (.inl ⟨p, line, rfl, hp, hline, herror, fun path document traced => ?_⟩)
    simp only [Opening.ofSources, hline]
  | @broken m hm => exact .inr (.inr ⟨m, rfl, hm, rfl, fun _ _ _ => rfl⟩)

def unheld : Folder where
  files := [([pathFor "xx"], ⟨#[0xFF]⟩), ([pathFor "yy", "en.yaml"], .empty),
    ([pathFor "zz"], "[]".toUTF8)]
  folders := []

/-- Loading breaks off without a report at the former two, and finds no fault with the latter. -/
theorem messages_unreported :
    load unheld "xx" = .error (.mishap (.refused (.breakdown .unreadable))) ∧
    load unheld "yy" = .error (.mishap (.denied .isFolder)) ∧
    (∀ m, (Problem.mishap m).report? = none) ∧
    load unheld "zz" = .ok [] ∧ ∃ d, unheld.read (pathFor "zz") = .ok "[]".toUTF8 ∧
      Readers.usual.yamlFile "[]".toUTF8 = .ok d ∧
      ∀ es, d.value.compound? d.compounds ≠ some (.mapping es) := by
  have hin : (Readers.usual.yamlFile "[]".toUTF8).toOption.any (fun d =>
      (d.value.compound? d.compounds).map Yaml.Value.shownAgain = some "[...]") = true := by
    decide +kernel
  obtain ⟨d, hd, hlist⟩ := ok_of_any hin
  refine ⟨by decide +kernel, by decide +kernel, fun _ => rfl, by decide +kernel, d,
    by decide +kernel, hd, fun es hes => ?_⟩
  rw [hes] at hlist
  exact absurd (of_decide_eq_true hlist) (by simp [Yaml.Value.shownAgain])

end Fabula.Catalogue

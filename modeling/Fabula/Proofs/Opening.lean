import Fabula.Proofs.Folder
import Fabula.Proofs.Reach
import Fabula.Proofs.Reading
import Fabula.Catalogue.English
import Fabula.Play.Opening

/-!
What becomes of the file that a game is to be played from. Either the game opens, or what is wrong
with the file is reported to the player, or the opening breaks off without a word; then there is
something in the path or in the file that it breaks off at.
-/

set_option autoImplicit false

namespace Fabula

def Folder.text (f : Folder) (path : String) : Except Mishap String :=
  textOf (f.read (Path.normal path))

/-- Why the opening of a game from the file at a path breaks off. -/
inductive Breaks (r : Readers) (f : Folder) (path : String) : Mishap → Prop where
  | unusable : '\x00' ∈ path.toList → Breaks r f path (.denied .unusable)
  | deepTree {text : String} {e : Xml.Element} : f.text path = .ok text →
      Node.isYamlFile path = false → r.xml text.toList = .ok e → r.deepest < e.depth →
      Breaks r f path (.refused (.breakdown .tooDeep))
  /-- The reader of documents has no value for it, and does not say that it is malformed. -/
  | reader {text : String} {b : Yaml.Breakdown} : f.text path = .ok text →
      Node.isYamlFile path = true → r.yaml text.toList = .error (.breakdown b) →
      Breaks r f path (.refused (.breakdown b))
  | value {text : String} {d : Yaml.Document} {b : Yaml.Breakdown} : f.text path = .ok text →
      Node.isYamlFile path = true → r.yaml text.toList = .ok d →
      d.value.Unfit d.compounds (min r.deepestShown (2 * r.deepest - 1)) b →
      Breaks r f path (.refused (.breakdown b))

def IsError (line : String) : Prop := ∃ reason, line = "ERROR: " ++ reason

theorem IsError.append {line : String} (h : IsError line) (rest : String) :
    IsError (line ++ rest) := by
  obtain ⟨reason, rfl⟩ := h
  exact ⟨reason ++ rest, String.append_assoc⟩

theorem IsError.of_kind (kind reason : String) : IsError ("ERROR: " ++ kind ++ reason) :=
  have hkind : IsError ("ERROR: " ++ kind) := ⟨kind, rfl⟩
  hkind.append reason

namespace Node

theorem ofXml_breakdown {r : Readers} {text : String} {b : Yaml.Breakdown}
    (h : ofXml text r = .error (.breakdown b)) :
    b = .tooDeep ∧ ∃ e, r.xml text.toList = .ok e ∧ r.deepest < e.depth := by
  rw [ofXml] at h
  split at h
  · next e he =>
    split at h
    · cases h
    · next hdeep =>
      obtain rfl := Refusal.breakdown.inj (Except.error.inj h)
      exact ⟨rfl, e, he, Nat.lt_of_not_le hdeep⟩
  · cases h

theorem ofYaml_breakdown {r : SoundReaders} {text : String} {b : Yaml.Breakdown}
    (h : ofYaml text r.toReaders = .error (.breakdown b)) :
    r.yaml text.toList = .error (.breakdown b) ∨
    ∃ d, r.yaml text.toList = .ok d ∧
      d.value.Unfit d.compounds (min r.deepestShown (2 * r.deepest - 1)) b := by
  have hread := error_of_map h
  rw [Yaml.Tree.ofText] at hread
  split at hread
  · next b' hbroken =>
    obtain rfl := Refusal.breakdown.inj (Except.error.inj hread)
    exact .inl hbroken
  · cases hread
  · cases hread
  · next v cs _ hd =>
    have hwhole := r.whole hd
    have hcause := Yaml.Tree.ofValueWithin_error hwhole.compounds hwhole.value hread
    exact .inr ⟨_, hd, hcause.resolve_left fun hnone => Nat.ne_of_gt r.deepest_pos hnone.1⟩

theorem ofXml_height {r : Readers} {text : String} {n : Node} (h : ofXml text r = .ok n) :
    n.height ≤ r.deepest := by
  rw [ofXml] at h
  split at h
  · next e he =>
    split at h
    · next hshallow =>
      obtain rfl := Except.ok.inj h
      rwa [height_ofElement]
    · cases h
  · cases h

theorem ofYaml_height {r : SoundReaders} {text : String} {n : Node}
    (h : ofYaml text r.toReaders = .ok n) : n.height ≤ r.deepest := by
  obtain ⟨t, ht, rfl⟩ := ok_of_map h
  rw [Yaml.Tree.ofText] at ht
  split at ht
  · cases ht
  · cases ht
  · cases ht
  · next v cs _ hd => exact Yaml.Tree.height_le_of_ok (r.whole hd).proper ht

theorem text_cases (f : Folder) (path : String) : (∃ text, f.text path = .ok text) ∨
    f.text path = .error .notUtf8 ∨
    ∃ d, f.text path = .error (.denied d) ∧ f.read (Path.normal path) = .error d := by
  unfold Folder.text textOf
  split
  · next d hread => exact .inr (.inr ⟨d, rfl, hread⟩)
  · split
    · exact .inl ⟨_, rfl⟩
    · exact .inr (.inl rfl)

theorem ofFile_height {r : SoundReaders} {f : Folder} {path : String} {n : Node}
    (h : ofFile f path r.toReaders = .ok n) : n.height ≤ r.deepest := by
  rw [ofFile, ofOctets] at h
  split at h
  · cases h
  · cases h
  · rw [mapError_eq_ok] at h
    split at h
    · exact ofYaml_height h
    · exact ofXml_height h

theorem breaks_of_breakdown {r : SoundReaders} {f : Folder} {path text : String}
    {b : Yaml.Breakdown} (htext : f.text path = .ok text)
    (h : (if isYamlFile path then ofYaml text r.toReaders else ofXml text r.toReaders) =
      .error (.breakdown b)) :
    Breaks r.toReaders f path (.refused (.breakdown b)) := by
  split at h
  · next hyaml =>
    rcases ofYaml_breakdown h with hreader | ⟨d, hd, hunfit⟩
    · exact .reader htext hyaml hreader
    · exact .value htext hyaml hd hunfit
  · next hxml =>
    obtain ⟨rfl, e, he, hdeep⟩ := ofXml_breakdown h
    exact .deepTree htext (Bool.eq_false_iff.mpr hxml) he hdeep

theorem ofFile_error {r : SoundReaders} {f : Folder} {path : String} {m : Mishap}
    (h : ofFile f path r.toReaders = .error m) :
    (∃ line, Opening.report? (Path.normal path) m = some line ∧ IsError line) ∨
      Opening.report? (Path.normal path) m = none ∧ Breaks r.toReaders f path m := by
  rw [ofFile, ofOctets] at h
  rcases text_cases f path with ⟨text, htext⟩ | htext | ⟨d, htext, hread⟩ <;>
    rw [← Folder.text, htext] at h
  · cases hr : (if isYamlFile path then ofYaml text r.toReaders else ofXml text r.toReaders) with
    | ok n => simp [hr, Except.mapError] at h
    | error refusal =>
      simp only [hr] at h
      obtain rfl := Except.error.inj h
      cases refusal with
      | flaw flaw => exact .inl ⟨_, rfl, .of_kind "Invalid world file: " _⟩
      | breakdown b => exact .inr ⟨rfl, breaks_of_breakdown htext hr⟩
  · obtain rfl := Except.error.inj h
    exact .inl ⟨_, rfl, .of_kind "Invalid world file: " _⟩
  · obtain rfl := Except.error.inj h
    cases d with
    | unusable =>
      refine .inr ⟨rfl, .unusable ?_⟩
      rcases Path.mem_of_mem_normal (Folder.read_unusable hread) with hnull | hslash | hdot
      · exact hnull
      · cases hslash
      · cases hdot
    | absent => exact .inl ⟨_, rfl, .of_kind "Missing world file: " _⟩
    | _ => exact .inl ⟨_, rfl, .of_kind "Cannot read world file: " _⟩

end Node

namespace Game

theorem ofDocument_fault {document : Node} {catalogue : Catalogue} {traced : Bool} {o : Outcome}
    (h : ofDocument document catalogue traced = .ok o) : o.fault = none := by
  cases hd : World.ofDocument document with
  | error e => simp [ofDocument, hd, bind, Except.bind] at h
  | ok w =>
    simp only [ofDocument, hd, bind, Except.bind, pure, Except.pure, Except.ok.injEq] at h
    rw [← h]
    change (reset _).fault = none
    rw [reset_eq (World.ofDocument_ok.mp hd).2]

end Game

namespace Opening

def ofFile (r : Readers) (f : Folder) (path : String) (traced : Bool) : Opening :=
  ofSources (.ok .english) path (Node.ofFile f path r) traced

/-- No game is opened, and the player is told why: an error in each line. -/
structure IsReported (o : Opening) : Prop where
  refused : ∃ lastWord, o.game = .error (.reported lastWord)
  told : o.events ≠ []
  errors : ∀ e ∈ o.events, ∃ line, e = .shown line ∧ IsError line

theorem refused_reported {reports : List String} (lastWord : String) (htold : reports ≠ [])
    (herrors : ∀ line ∈ reports, IsError line) : (refused reports lastWord).IsReported := by
  refine ⟨⟨lastWord, rfl⟩, by simpa [refused] using htold, fun e he => ?_⟩
  obtain ⟨line, hline, rfl⟩ := List.mem_map.mp he
  exact ⟨line, rfl, herrors line hline⟩

theorem complaints_ne_nil {document : Node} {found : List Complaint}
    (h : World.ofDocument document = .error (.complaints found)) : found ≠ [] := by
  rw [World.ofDocument] at h
  split at h
  · split at h <;> cases h
  · next hsome =>
    obtain rfl := LoadError.complaints.inj (Except.error.inj h)
    exact hsome

theorem ofDocument_reported {catalogue : Catalogue} {document : Node} {traced : Bool}
    {e : LoadError} (h : Game.ofDocument document catalogue traced = .error e) :
    (ofDocument catalogue document traced).IsReported := by
  rw [ofDocument, h]
  cases e with
  | complaints found =>
    have hworld : World.ofDocument document = .error (.complaints found) := error_of_bind_pure h
    refine refused_reported lastWord (by simpa using complaints_ne_nil hworld) fun line hline => ?_
    obtain ⟨c, -, rfl⟩ := List.mem_map.mp hline
    exact ⟨c.message, rfl⟩
  | flaw flaw =>
    refine refused_reported "" (by simp) fun line hline => ?_
    obtain rfl := List.mem_singleton.mp hline
    exact .of_kind "Invalid world file: " flaw.message

/-- The game of a file opens without a fault, on a tree that all else can follow as well, or it is
reported why not, or the opening breaks off; then there is a character in the path that no path can
hold, a tree too deep to be followed, or a document that its reader has no value for, or in whose
value there are children without parts, an integer too long to be written, or compounds too deep to
be followed. So it is with all readers that give whole documents, however deep they can follow
them. -/
theorem opening_reported (r : SoundReaders) (f : Folder) (path : String) (traced : Bool) :
    (∃ document outcome, Node.ofFile f path r.toReaders = .ok document ∧
      document.height ≤ r.deepest ∧ Game.ofDocument document .english traced = .ok outcome ∧
      outcome.fault = none ∧
      ofFile r.toReaders f path traced = ⟨outcome.events, .ok outcome.game⟩) ∨
    (ofFile r.toReaders f path traced).IsReported ∨
    ∃ m, ofFile r.toReaders f path traced = broken m ∧ Breaks r.toReaders f path m := by
  cases hfile : Node.ofFile f path r.toReaders with
  | ok document =>
    have ho : ofFile r.toReaders f path traced = ofDocument .english document traced := by
      simp only [ofFile, hfile, ofSources]
    cases hgame : Game.ofDocument document .english traced with
    | ok outcome =>
      have hopened : ofFile r.toReaders f path traced = ⟨outcome.events, .ok outcome.game⟩ := by
        rw [ho, ofDocument, hgame]
      exact .inl ⟨document, outcome, rfl, Node.ofFile_height hfile, hgame,
        Game.ofDocument_fault hgame, hopened⟩
    | error e => exact .inr (.inl (ho ▸ ofDocument_reported hgame))
  | error m =>
    refine .inr ?_
    rcases Node.ofFile_error hfile with ⟨line, hline, herror⟩ | ⟨hnone, hbreaks⟩
    · have ho : ofFile r.toReaders f path traced = refused [line] "" := by
        simp only [ofFile, hfile, ofSources, hline]
      exact .inl (ho ▸ refused_reported "" (by simp) (by simpa using herror))
    · have ho : ofFile r.toReaders f path traced = broken m := by
        simp only [ofFile, hfile, ofSources, hnone]
      exact .inr ⟨m, ho, hbreaks⟩

def numberedChildren : Folder :=
  ⟨[(["world.yaml"], "adventure:\n  children: 5\n".toUTF8)], []⟩

theorem numberedChildren_refused :
    Node.ofFile numberedChildren "world.yaml" = .error (.refused (.breakdown .noParts)) := by
  have hrun : (match Node.ofFile numberedChildren "world.yaml" with
    | .ok _ => false
    | .error m => m == .refused (.breakdown .noParts)) = true := by decide +kernel
  cases hfile : Node.ofFile numberedChildren "world.yaml" with
  | ok n => simp [hfile] at hrun
  | error m =>
    simp only [hfile, beq_iff_eq] at hrun
    rw [hrun]

/-- Nothing is said about such a document, though no game opens. -/
theorem opening_breaks_off :
    ofFile .usual numberedChildren "world.yaml" false = broken (.refused (.breakdown .noParts)) ∧
    (∀ g, (ofFile .usual numberedChildren "world.yaml" false).game ≠ .ok g) ∧
    ¬(ofFile .usual numberedChildren "world.yaml" false).IsReported := by
  have ho : ofFile .usual numberedChildren "world.yaml" false =
      broken (.refused (.breakdown .noParts)) := by
    simp only [ofFile, numberedChildren_refused, ofSources, report?]
  rw [ho]
  refine ⟨rfl, fun g hg => ?_, fun hreported => hreported.told rfl⟩
  cases hg

end Opening

end Fabula

import Fabula.Proofs.Fluency
import Fabula.Proofs.Rendition

set_option autoImplicit false

namespace Fabula

namespace Game

structure Spoken (document : Node) (w : World) (g : Game) : Prop where
  tallied : g.Tallied document w
  english : g.catalogue = .english
  agenda : ∀ cue ∈ g.session.agenda, ∀ action ∈ cue.actions, action = .finish

theorem Spoken.move {document : Node} {w : World} (hload : World.load document.worldRoot = .ok w)
    {g : Game} (hg : g.Spoken document w) (m : Move) : (g.move m).Spoken document w where
  tallied := hg.tallied.move hload g m
  english := (g.move_sameStory m).catalogue.trans hg.english
  agenda := move_agenda (hg.tallied.document ▸ hload) Cue.finishes_lasting.toInherited
    (Cue.finishes_lasting.loaded hload) hg.agenda m

theorem Spoken.tick_fault {document : Node} {w : World} {g : Game} (hg : g.Spoken document w)
    {lines : Lines} {fault : Fault} (h : (g.tick lines).outcome.fault = some fault) :
    lines.fault? = some fault ∨ fault.IsOverlong = true ∧ g.Overfull := by
  have hsmooth : ∀ (g' : Game) (cue : Cue), g'.catalogue = g.catalogue → cue ∈ g.session.agenda →
      (cue.play g').fault ≠ some fault := by
    intro g' cue hsame hcue
    rw [play_smooth (hsame.trans hg.english) (hg.agenda cue hcue)]
    simp
  have htakes := g.tick_takes lines
  generalize g.tick lines = t at *
  cases htakes with
  | finished => cases h
  | answered =>
    rw [reading_answer] at h
    exact .inl h
  | @queued cue queue hf hp hq =>
    exact absurd h (hsmooth _ cue rfl (by simp [Session.agenda, hq]))
  | @scripted cue cues hf hp hq hr =>
    exact absurd h (hsmooth _ cue rfl (g.session.remaining_subset (by simp [hr])))
  | commanded hstate =>
    have hreads := g.reading_reads lines fun g line => (g.execute line).outcome
    generalize g.reading lines (fun g line => (g.execute line).outcome) = t at *
    cases hreads with
    | ended => exact .inl h
    | interrupted => exact .inl h
    | @line text rest =>
      exact .inr (hg.tallied.steady.execute_fluent hg.english text fault h)

theorem fault_of_uninterrupted {lines : Lines} (hlines : none ∉ lines) {fault : Fault}
    (h : lines.fault? = some fault) : fault = .endOfInput := by
  cases lines with
  | nil => exact (Option.some.inj h).symm
  | cons line rest =>
    cases line with
    | none => simp at hlines
    | some text => cases h

theorem Effect.unfinished {g after : Game} {l : Line} (he : g.Effect l after)
    (hf : g.session.finished = false) : after.session.finished = false := by
  have hleaves := he.leaves
  generalize after.session = left at hleaves ⊢
  cases hleaves with
  | restart =>
    cases hload : World.load g.document.worldRoot with
    | error flaw =>
      rw [reset_error hload]
      exact hf
    | ok w =>
      rw [reset_game hload]
      rfl
  | quit => exact hf
  | moved => exact hf

theorem reading_unfinished {g : Game} (lines : Lines) (step : Game → String → Outcome)
    (hf : g.session.finished = false)
    (hstep : ∀ text, (step g text).game.session.finished = false) :
    (g.reading lines step).outcome.game.session.finished = false := by
  have hreads := g.reading_reads lines step
  generalize g.reading lines step = t at *
  cases hreads with
  | ended => exact hf
  | interrupted => exact hf
  | line => exact hstep _

theorem played_finishes {g after : Game} {cue : Cue} (hp : Cue.Played g cue after)
    (hf : g.session.finished = false) (hafter : after.session.finished = true) :
    cue = .act .finish := by
  cases hp with
  | finish => rfl
  | nothing => simp [hf] at hafter
  | enter => simp [changeSession, hf] at hafter
  | suspend => simp [changeSession, hf] at hafter

theorem play_finish_seen {g : Game} (henglish : g.catalogue = .english) :
    ((Cue.act .finish).play g).seen = [.shown "Quitting..."] := by
  rw [Cue.play, Cue.deeds, performAll_cons, say_shown "farewell" henglish rfl]
  cases ht : g.traced <;> simp [display, Outcome.next, Deed.perform, Outcome.done, changeSession,
    noteText, trace, ht, Cue.completes, Outcome.seen, List.filter]

theorem tick_finishes {g : Game} (henglish : g.catalogue = .english) {lines : Lines}
    (hf : g.session.finished = false)
    (hafter : (g.tick lines).outcome.game.session.finished = true) :
    (g.tick lines).outcome.seen = [.shown "Quitting..."] := by
  have hplayed : ∀ (g' : Game) (cue : Cue), g'.catalogue = g.catalogue →
      g'.session.finished = false → (cue.play g').game.session.finished = true →
      (cue.play g').seen = [.shown "Quitting..."] := by
    intro g' cue hsame hopen hover
    obtain rfl := played_finishes (cue.play_played g') hopen hover
    exact play_finish_seen (hsame.trans henglish)
  have htakes := g.tick_takes lines
  generalize g.tick lines = t at *
  cases htakes with
  | finished hover => simp [hf] at hover
  | @answered cue =>
    have hanswer : ∀ text, (answer cue g text).game.session.finished = false := by
      intro text
      unfold answer
      cases cue.reply? text <;> exact hf
    simp [reading_unfinished lines (answer cue) hf hanswer] at hafter
  | queued => exact hplayed _ _ rfl hf hafter
  | scripted => exact hplayed _ _ rfl hf hafter
  | commanded =>
    have hstays := reading_unfinished lines (fun g line => (g.execute line).outcome) hf fun text =>
      (g.execute_effect text).unfinished hf
    simp [hstays] at hafter

theorem mem_of_mem_unread {g : Game} {lines : Lines} {line : Option String}
    (h : line ∈ (g.tick lines).unread) : line ∈ lines := by
  have htakes := g.tick_takes lines
  generalize g.tick lines = t at *
  cases htakes with
  | finished => exact h
  | answered => exact List.mem_of_mem_tail (by rwa [reading_unread] at h)
  | queued => exact h
  | scripted => exact h
  | commanded => exact List.mem_of_mem_tail (by rwa [reading_unread] at h)

/-- How a session is left: with a farewell, or over an amount that is too long. -/
def LeftWell (w : World) (o : Outcome) : Prop :=
  (o.fault = none ∧ o.seen.getLast? = some (.shown "Quitting...")) ∨
  ∃ fault, o.fault = some fault ∧ fault.IsOverlong = true ∧
    ∃ item, (Text.tooLong : Int) ≤ w.pieces item

theorem closed_of_endOfInput {t : Turn} (henglish : t.outcome.game.catalogue = .english)
    (h : t.outcome.fault = some .endOfInput) : t.closed.outcome.fault = none ∧
      t.closed.outcome.seen.getLast? = some (.shown "Quitting...") := by
  rw [Turn.closed, h]
  simp [Outcome.next, say_shown "farewell" henglish rfl, display, Outcome.seen]

theorem closed_of_overlong {t : Turn} {fault : Fault} (h : t.outcome.fault = some fault)
    (hlong : fault.IsOverlong = true) : t.closed = t := by
  rw [Turn.closed, h]
  cases fault <;> first | rfl | cases hlong

theorem Ends.of_finished {g : Game} {lines : Lines} {k : Nat} {t : Turn} (h : g.Ends lines k t)
    (hf : g.session.finished = true) : t = ⟨.done g, lines, false⟩ := by
  have htick := tick_finished hf lines
  cases h with
  | last => exact htick
  | more halive => simp [htick] at halive

theorem Spoken.ends_well {document : Node} {w : World}
    (hload : World.load document.worldRoot = .ok w) {g : Game} (hg : g.Spoken document w)
    {lines : Lines} (hlines : none ∉ lines) (hf : g.session.finished = false) {k : Nat} {t : Turn}
    (h : g.Ends lines k t) : LeftWell w t.closed.outcome := by
  induction h with
  | @last g lines hend =>
    -- A session that is not over stays alive, so its last turn is one that breaks off.
    have halive : (g.tick lines).alive = true := by rw [tick_alive, hf]; rfl
    obtain ⟨fault, hfault⟩ : ∃ fault, (g.tick lines).outcome.fault = some fault := by
      simpa [halive, Option.isSome_iff_exists] using hend
    rcases hg.tick_fault hfault with hread | ⟨hlong, item, hitem⟩
    · -- No line is an interruption, so there is none left.
      obtain rfl := fault_of_uninterrupted hlines hread
      exact .inl (closed_of_endOfInput (hg.move hload (.tick lines)).english hfault)
    · rw [hg.tallied.pieces] at hitem
      rw [closed_of_overlong hfault hlong]
      exact .inr ⟨fault, hfault, hlong, item, hitem⟩
  | @more g lines k t halive hfault hends ih =>
    rw [closed_andThen hfault, LeftWell, Turn.andThen_fault hfault, Turn.andThen_seen hfault]
    -- Once a turn has ended the session, nothing is seen after its farewell.
    cases hover : (g.tick lines).outcome.game.session.finished with
    | true =>
      obtain rfl := hends.of_finished hover
      refine .inl ⟨rfl, ?_⟩
      rw [tick_finishes hg.english hf hover]
      rfl
    | false =>
      have hunread : none ∉ (g.tick lines).unread := fun hmem => hlines (mem_of_mem_unread hmem)
      rcases ih (hg.move hload (.tick lines)) hunread hover with ⟨hnone, hlast⟩ | hlong
      · exact .inl ⟨hnone, by rw [List.getLast?_append, hlast]; rfl⟩
      · exact .inr hlong

theorem ofDocument_spoken {document : Node} {traced : Bool} {o : Outcome}
    (h : ofDocument document .english traced = .ok o) {w : World}
    (hw : World.ofDocument document = .ok w) : o.game.Spoken document w := by
  obtain ⟨v, hv, hgame⟩ := ofDocument_ok h
  cases hw.symm.trans hv
  have hcues : w.EachCue fun cue => ∀ action ∈ cue.actions, action = .finish :=
    Cue.finishes_lasting.loaded (World.ofDocument_ok.mp hw).2
  exact ⟨ofDocument_tallied h hw, by rw [hgame], ofDocument_agenda h (by rw [hgame]; exact hcues)⟩

theorem ofDocument_turnBound {document : Node} {catalogue : Catalogue} {traced : Bool} {o : Outcome}
    (h : ofDocument document catalogue traced = .ok o) {w : World}
    (hw : World.ofDocument document = .ok w) {scene : Scene}
    (hscene : w.scene? Node.startScene = some scene) (lines : Lines) :
    o.game.turnBound lines =
      scene.cues.length + lines.length * (scene.cues.length + 2) + 2 := by
  obtain ⟨v, hv, hgame⟩ := ofDocument_ok h
  cases hw.symm.trans hv
  have hlength : o.game.startLength = scene.cues.length := by
    rw [startLength, hgame]
    simp only [(World.ofDocument_ok.mp hw).2, hscene]
    rfl
  have hwork : o.game.session.work = scene.cues.length := by
    rw [hgame, hscene]
    simp [Session.work, Session.start, Session.remaining]
  rw [turnBound_eq, hlength, hwork]

/-- A session in English comes to an end. With `n` lines, and a first scene of `L` cues, it takes at
most `(n + 1) * L + 2 * n + 1` turns. It ends with a farewell, unless there is so much of an item
that the amount is too long to be written. -/
theorem session_ends {document : Node} {traced : Bool} {o : Outcome}
    (h : ofDocument document .english traced = .ok o) (lines : List String) :
    ∃ w scene, World.ofDocument document = .ok w ∧ w.scene? Node.startScene = some scene ∧
    (∃ k t, o.game.Ends (lines.map some) k t ∧ o.game.run (lines.map some) = t.closed ∧
      k ≤ (lines.length + 1) * scene.cues.length + 2 * lines.length + 1) ∧
    LeftWell w (o.game.run (lines.map some)).outcome := by
  obtain ⟨w, hw, hgame⟩ := ofDocument_ok h
  obtain ⟨hchecked, hload⟩ := World.ofDocument_ok.mp hw
  obtain ⟨entry, -, hscene⟩ := (World.loadedFrom_of_ok hchecked hload).scene?_start hchecked
  obtain ⟨k, t, hends, hk⟩ := o.game.ends_within (lines.map some)
  refine ⟨w, Scene.ofNode entry, hw, hscene, ⟨k, t, hends, hends.run, ?_⟩, ?_⟩
  · rw [ofDocument_turnBound h hw hscene, List.length_map] at hk
    have hlines : lines.length * ((Scene.ofNode entry).cues.length + 2) =
        lines.length * (Scene.ofNode entry).cues.length + lines.length * 2 := Nat.mul_add _ _ _
    have hstart : (lines.length + 1) * (Scene.ofNode entry).cues.length =
        lines.length * (Scene.ofNode entry).cues.length + (Scene.ofNode entry).cues.length :=
      Nat.succ_mul _ _
    omega
  · rw [hends.run]
    exact (ofDocument_spoken h hw).ends_well hload (by simp) (by rw [hgame]; rfl) hends

/-- The sample's first scene is played twice, and the second time its question is answered only in
part. -/
theorem session_ends_sample : ∃ o w scene, ofDocument Sample.document .english false = .ok o ∧
    World.ofDocument Sample.document = .ok w ∧ w.scene? Node.startScene = some scene ∧
    scene.cues.length = 4 ∧
    (∃ k t, o.game.Ends [some "1", some "restart", some "perhaps"] k t ∧
      o.game.run [some "1", some "restart", some "perhaps"] = t.closed ∧ k ≤ 23) ∧
    LeftWell w (o.game.run [some "1", some "restart", some "perhaps"]).outcome := by
  have hscene : (World.ofDocument Sample.document).toOption.any (fun w =>
      (w.scene? Node.startScene).any (·.cues.length == 4)) = true := by decide +kernel
  rw [Option.any_eq_true] at hscene
  obtain ⟨w, hw, hcues⟩ := hscene
  have hloaded : World.ofDocument Sample.document = .ok w := by
    cases h : World.ofDocument Sample.document with
    | error e => simp [h, Except.toOption] at hw
    | ok v => simpa [h, Except.toOption] using hw
  obtain ⟨o, ho⟩ := opens_of_loaded hloaded .english false
  obtain ⟨v, scene, hv, hstart, ⟨k, t, hends, hrun, hk⟩, hleft⟩ :=
    session_ends ho ["1", "restart", "perhaps"]
  obtain rfl : w = v := Except.ok.inj (hloaded.symm.trans hv)
  have hlength : scene.cues.length = 4 := by simpa [hstart] using hcues
  rw [hlength] at hk
  exact ⟨o, w, scene, ho, hloaded, hstart, hlength, ⟨k, t, hends, hrun, hk⟩, hleft⟩

end Game

namespace Text

theorem digits?_nines (n : Nat) :
    digits? 10 (List.replicate (n + 1) '9') = some (List.replicate (n + 1) 9) := by
  induction n with
  | zero => rfl
  | succ n ih =>
    have hnine : digit? 10 '9' = some 9 := rfl
    rw [List.replicate_succ, List.replicate_succ, digits?, ← List.replicate_succ, hnine, ih]
    · rfl
    · decide

theorem ofDigits_nines (n : Nat) : ofDigits 10 (List.replicate n 9) + 1 = Nat.pow 10 n := by
  have hfrom : ∀ m, (List.replicate n 9).foldl (fun n d => n * 10 + d) m + 1 =
      (m + 1) * Nat.pow 10 n := by
    induction n with
    | zero => exact fun m => (Nat.mul_one _).symm
    | succ n ih =>
      intro m
      have hten : m * 10 + 9 + 1 = (m + 1) * 10 := by omega
      have hpow : Nat.pow 10 (n + 1) = 10 * Nat.pow 10 n := Nat.pow_succ'
      rw [List.replicate_succ, List.foldl_cons, ih, hten, Nat.mul_assoc, hpow]
  simpa [ofDigits] using hfrom 0

theorem trimPadding_nines (n : Nat) :
    trimPadding (List.replicate n '9') = List.replicate n '9' := by
  have hdrop : (List.replicate n '9').dropWhile isPadding = List.replicate n '9' := by
    have hnine : isPadding '9' = false := by decide
    cases n with
    | zero => rfl
    | succ n => rw [List.replicate_succ, List.dropWhile_cons, hnine]; rfl
  rw [trimPadding, hdrop, List.reverse_replicate, hdrop, List.reverse_replicate]

theorem integer?_replicate {n : Nat} (hpos : 0 < n) (hn : n ≤ maxDecimalDigits) :
    integer? (String.ofList (List.replicate n '9')) = some ((Nat.pow 10 n - 1 : Nat) : Int) := by
  obtain ⟨m, rfl⟩ : ∃ m, n = m + 1 := ⟨n - 1, by omega⟩
  have hvalue : naturalIn? 10 (List.replicate (m + 1) '9') = some (Nat.pow 10 (m + 1) - 1) := by
    have hds := ofDigits_nines (m + 1)
    have hshort : ¬maxDecimalDigits < m + 1 := by omega
    have hmark : dropBaseMark 10 (List.replicate (m + 1) '9') = List.replicate (m + 1) '9' := by
      unfold dropBaseMark
      split <;> simp_all [baseLetter?]
    simp only [naturalIn?, hmark, digits?_nines, bind, Option.bind, List.length_replicate, hshort,
      and_false, if_false, pure]
    congr 1
    omega
  rw [integer?, String.toList_ofList, integerIn?, trimPadding_nines]
  rw [List.replicate_succ] at hvalue ⊢
  change (naturalIn? 10 ('9' :: List.replicate m '9')).map Int.ofNat = _
  rw [hvalue]
  rfl

def nines : String := String.ofList (List.replicate maxDecimalDigits '9')

theorem integer?_nines :
    integer? nines = some ((Nat.pow 10 maxDecimalDigits - 1 : Nat) : Int) :=
  integer?_replicate (by decide) (Nat.le_refl _)

end Text

section Hoard

open Sample

variable {amount : String} {n : Int}

def hoardYard (amount : String) : Node :=
  area "yard" "Yard" "" [several "coin" amount, several "coin" amount]

def hoardEntry : Node := around "entry" [("id", "1")] [mark "enter" [("area", "yard")]]

def hoard (amount : String) : Node :=
  around "adventure" [] [hoardEntry, item "coin" "Coin" "", hoardYard amount]

def hoardWorld (n : Int) : World where
  items := [("coin", ⟨"coin", "Coin", ""⟩)]
  areas := [("yard", ⟨"yard", "Yard", "", [],
    Holdings.add (Holdings.add [] "coin" n) "coin" n, []⟩)]
  scenes := [("1", ⟨"1", [.enter "yard"]⟩)]

theorem tagged_eq_name {n : Node} (h : n.name ∈ ["entry", "item", "area", "enter"])
    (tag : String) : n.tagged tag = (n.name == tag) := by
  have hlower : ∀ name ∈ ["entry", "item", "area", "enter"], Text.lowerCase name = name := by
    decide +kernel
  rw [Node.tagged, hlower n.name h]

theorem several_pieces {item : String} (h : Text.integer? amount = some n) :
    (several item amount).pieces = .ok n := by
  have hfilled : (several item amount).filled? "ammount" = some amount :=
    Node.filled?_of_integer rfl h
  rw [Node.pieces]
  change (several item amount).integer "ammount" 1 = _
  rw [Node.integer_of_filled hfilled, h]

theorem hoardYard_area (h : Text.integer? amount = some n) : (hoardYard amount).area =
    .ok ⟨"yard", "Yard", "", [], Holdings.add (Holdings.add [] "coin" n) "coin" n, []⟩ := by
  have hone : ∀ held nodes, Node.holdings held (several "coin" amount :: nodes) =
      Node.holdings (held.add "coin" n) nodes := by
    intro held nodes
    have hname : (several "coin" amount).name = "contains" := rfl
    rw [Node.holdings, if_pos hname, several_pieces h]
    rfl
  have hheld : Node.holdings [] (hoardYard amount).children =
      .ok (Holdings.add (Holdings.add [] "coin" n) "coin" n) := by
    change Node.holdings [] [several "coin" amount, several "coin" amount] = _
    rw [hone, hone]
    rfl
  rw [Node.area, hheld]
  rfl

theorem hoard_checked (h : Text.integer? amount = some n) (hn : 1 ≤ n) :
    (hoard amount).complaints = [] := by
  have hname : (several "coin" amount).name = "contains" := rfl
  have hmention : Node.mentionComplaints ["coin"] (.area (some "yard")) (several "coin" amount) =
      [] := by
    refine Node.mentionComplaints_eq_nil.mpr ⟨⟨"coin", rfl, by simp⟩, fun raw hraw => ?_⟩
    cases hraw
    exact ⟨n, h, hn⟩
  simp [Node.complaints, hoard, hoardEntry, hoardYard, around, mark, item, area, Node.idsOf,
    Node.idComplaints, tagged_eq_name, Node.childComplaints, Node.cuesComplaints,
    Node.cueComplaints, Node.itemComplaints, Node.areaComplaints, Node.filled?, Node.attr?,
    Table.get?, Option.filter, Node.startScene, hname, hmention]

theorem hoard_load (h : Text.integer? amount = some n) :
    World.load (hoard amount) = .ok (hoardWorld n) := by
  have hareas : (hoard amount).children.filter (·.tagged "area") = [hoardYard amount] := by
    simp [hoard, hoardEntry, hoardYard, around, mark, item, area, tagged_eq_name]
  have hitems : (hoard amount).children.filter (·.tagged "item") = [item "coin" "Coin" ""] := by
    simp [hoard, hoardEntry, hoardYard, around, mark, item, area, tagged_eq_name]
  have hentries : (hoard amount).children.filter (·.tagged "entry") = [hoardEntry] := by
    simp [hoard, hoardEntry, hoardYard, around, mark, item, area, tagged_eq_name]
  have hscene : Scene.ofNode hoardEntry = ⟨"1", [.enter "yard"]⟩ := by
    simp [Scene.ofNode, hoardEntry, around, mark, Node.cue?, tagged_eq_name, Node.attr, Node.attr?,
      Table.get?]
  rw [World.load, hareas, hitems, hentries]
  simp only [List.map_cons, World.fillAreas, hoardYard_area h, hscene]
  rfl

end Hoard

namespace Game

def hoardGame : Game :=
  let w := hoardWorld (Nat.pow 10 Text.maxDecimalDigits - 1 : Nat)
  ⟨hoard Text.nines, w, Session.start (w.scene? Node.startScene), .english, false⟩

theorem hoard_opens : ∃ o, ofDocument (hoard Text.nines) .english false = .ok o ∧
    o.game = hoardGame ∧ ∀ lines, o.game.turnBound lines = 1 + lines.length * 3 + 2 := by
  have hpos : (1 : Int) ≤ (Nat.pow 10 Text.maxDecimalDigits - 1 : Nat) := by
    have hmany : 2 ≤ Text.maxDecimalDigits := by decide
    have hmore : ∀ n, n < Nat.pow 10 n := fun n => Nat.lt_pow_self (by decide)
    replace hmore := hmore Text.maxDecimalDigits
    generalize Nat.pow 10 Text.maxDecimalDigits = most at hmore ⊢
    omega
  have hw : World.ofDocument (hoard Text.nines) =
      .ok (hoardWorld (Nat.pow 10 Text.maxDecimalDigits - 1 : Nat)) :=
    World.ofDocument_ok.mpr ⟨Node.complaints_eq_nil.mp (hoard_checked Text.integer?_nines hpos),
      hoard_load Text.integer?_nines⟩
  obtain ⟨o, ho⟩ := opens_of_loaded hw .english false
  refine ⟨o, ho, ?_, ofDocument_turnBound ho hw rfl⟩
  obtain ⟨w, hloaded, hgame⟩ := ofDocument_ok ho
  cases hw.symm.trans hloaded
  exact hgame

/-- The coins of the hoard can be taken, but then there is no way to write how many are carried, and
the session breaks off without a farewell. -/
theorem session_breaks_off : ∃ o, ofDocument (hoard Text.nines) .english false = .ok o ∧
    (∃ fault, (o.game.run [some "take coin", some "drop coin"]).outcome.fault = some fault ∧
      fault.IsOverlong = true) ∧
    .shown "Quitting..." ∉ (o.game.run [some "take coin", some "drop coin"]).outcome.seen := by
  obtain ⟨o, ho, hgame, hbound⟩ := hoard_opens
  have hbroken : ((runFor 9 hoardGame [some "take coin", some "drop coin"]).outcome.fault.any
      Fault.IsOverlong &&
    !(runFor 9 hoardGame [some "take coin", some "drop coin"]).outcome.seen.contains
      (.shown "Quitting...")) = true := by decide +kernel
  rw [Bool.and_eq_true, Option.any_eq_true] at hbroken
  obtain ⟨⟨fault, hfault, hlong⟩, hsilent⟩ := hbroken
  have hrun : o.game.run [some "take coin", some "drop coin"] =
      runFor 9 hoardGame [some "take coin", some "drop coin"] := by
    rw [run_eq_closed, hbound, hgame]
    exact closed_of_overlong hfault hlong
  refine ⟨o, ho, ?_⟩
  rw [hrun]
  exact ⟨⟨fault, hfault, hlong⟩, by simpa using hsilent⟩

end Game

end Fabula

import Fabula.Proofs.Choice
import Fabula.Proofs.Farewell
import Fabula.Proofs.Resolution

/-!
White space in the lines of a player. Lines of the same words are the same command, and so they do
the same in every state in which a line is taken for a command. Only an answer to a choice is
compared as it stands, white space between its words included.
-/

set_option autoImplicit false

namespace Fabula

namespace Text

section

def blankCodes : List Nat := [
  9, 10, 11, 12, 13, 28, 29, 30, 31, 32, 0x85, 0xA0, 0x1680, 0x2000, 0x2001, 0x2002, 0x2003,
  0x2004, 0x2005, 0x2006, 0x2007, 0x2008, 0x2009, 0x200A, 0x2028, 0x2029, 0x202F, 0x205F, 0x3000]

theorem mem_blankCodes {c : Char} (h : isBlank c = true) : c.toNat ∈ blankCodes := by
  simp only [isBlank, Bool.or_eq_true, Bool.and_eq_true, decide_eq_true_eq, beq_iff_eq] at h
  simp only [blankCodes, List.mem_cons, List.not_mem_nil, or_false]
  omega

theorem toLower_blank {c : Char} (hc : isBlank c = false) : isBlank c.toLower = false := by
  unfold Char.toLower
  split
  · next h =>
    have hupper : 65 ≤ c.toNat ∧ c.toNat ≤ 90 := h
    have hmoved : (c.val + 32).toNat = c.toNat + 32 := by
      rw [UInt32.toNat_add]
      exact Nat.mod_eq_of_lt (Nat.lt_of_le_of_lt (Nat.add_le_add_right hupper.2 32) (by decide))
    refine isBlank_of_visible ?_
    change 33 ≤ (c.val + 32).toNat ∧ (c.val + 32).toNat ≤ 126
    omega
  · exact hc

theorem lowerChar_blank {c : Char} (hc : isBlank c = false) :
    ∀ d ∈ lowerChar c, isBlank d = false := by
  -- No letter is moved onto white space.
  have hmoved : ∀ s ∈ LowerCase.single, ∀ code ∈ blankCodes,
      (code : Int) < s.first + s.distance ∨ s.last + s.distance < (code : Int) := by decide +kernel
  intro d hd
  unfold lowerChar at hd
  split at hd
  · rw [List.mem_singleton.mp hd]
    exact toLower_blank hc
  · split at hd
    · simp only [List.mem_cons, List.not_mem_nil, or_false] at hd
      rcases hd with rfl | rfl <;> decide
    · rw [List.mem_singleton.mp hd, shifted]
      split
      · next s hs =>
        have hcovers := List.find?_some hs
        have hrange := hmoved s (List.mem_of_find?_eq_some hs)
        simp only [Shift.covers, Bool.and_eq_true, decide_eq_true_eq] at hcovers
        by_contra hblank
        have hcode := mem_blankCodes ((Bool.not_eq_false _).mp hblank)
        have hpositive : ∀ code ∈ blankCodes, code ≠ 0 := by decide
        have hapart := hrange _ hcode
        have hnot := hpositive _ hcode
        rcases toNat_ofNat (c.toNat + s.distance).toNat with hsame | hzero
        · rw [Shift.apply, hsame] at hapart hnot
          omega
        · exact hnot hzero
      · exact hc

theorem lowerChar_ne_nil (c : Char) : lowerChar c ≠ [] := by
  unfold lowerChar
  split
  · simp
  · split <;> simp

theorem lowerChars_blank {inWord : Bool} {cs : List Char} (h : ∀ c ∈ cs, isBlank c = false) :
    ∀ d ∈ lowerChars inWord cs, isBlank d = false := by
  induction cs generalizing inWord with
  | nil => simp [lowerChars]
  | cons c cs ih =>
    simp only [List.forall_mem_cons] at h
    intro d hd
    rw [lowerChars, List.mem_append] at hd
    rcases hd with hhere | hlater
    · split at hhere
      · split at hhere
        all_goals
          rw [List.mem_singleton.mp hhere]
          decide
      · exact lowerChar_blank h.1 d hhere
    · exact ih h.2 d hlater

theorem isWord_lowerCase {w : String} (hw : isWord w = true) : isWord (lowerCase w) = true := by
  obtain ⟨hne, hplain⟩ := isWord_iff.mp hw
  rw [isWord_iff, lowerCase, String.toList_ofList]
  refine ⟨fun hnone => ?_, lowerChars_blank hplain⟩
  cases hcs : w.toList with
  | nil => exact hne hcs
  | cons c cs =>
    rw [hcs, lowerChars, List.append_eq_nil_iff] at hnone
    have hhere := hnone.1
    split at hhere
    · split at hhere <;> cases hhere
    · exact lowerChar_ne_nil c hhere

end

/-- Texts of the same words, whatever the white space around and between these. -/
def SameWords (text other : String) : Prop :=
  ∃ ws, Spaced ws text.toList ∧ Spaced ws other.toList

theorem sameWords_iff {text other : String} : SameWords text other ↔ words text = words other := by
  constructor
  · rintro ⟨ws, htext, hother⟩
    rw [htext.words, hother.words]
  · intro h
    exact ⟨words text, words_eq_iff.mp rfl, words_eq_iff.mp h.symm⟩

end Text

/-- An answer to a choice counts the same with other white space between its words, if these are
not the words of an option. -/
theorem Cue.reply?_respaced {question : String} {options : List (String × Cue)}
    {text other : String} (hwords : Text.words text = Text.words other)
    (h : Text.trim text = Text.trim other ∨
      ∀ option ∈ options, Text.words option.1 ≠ Text.words text) :
    (choose question options).reply? text = (choose question options).reply? other := by
  by_cases htrim : Text.trim text = Text.trim other
  · rw [reply?, reply?, htrim]
  · have hforeign := h.resolve_left htrim
    -- A text of one word, such as a number, is trimmed to it.
    have hmany : 1 < (Text.words text).length := by
      by_contra hfew
      refine htrim ?_
      rw [Text.trim_eq_unwords (by omega), Text.trim_eq_unwords (by rw [← hwords]; omega), hwords]
    have hnone : ∀ line, Text.words line = Text.words text →
        (choose question options).reply? line = none := by
      intro line hline
      rw [← Text.words_trim] at hline
      refine reply?_eq_none.mpr (not_fits_iff.mpr ⟨fun i _ hnumber => ?_, fun hmem => ?_⟩)
      · have hrow : Text.words (Nat.repr (i + 1)) = [Nat.repr (i + 1)] :=
          Text.words_single (Text.isWord_decimal (i + 1))
        rw [hnumber, hrow] at hline
        rw [← hline] at hmany
        exact absurd hmany (by simp)
      · obtain ⟨option, hoption, htext⟩ := List.mem_map.mp hmem
        exact hforeign option hoption (htext ▸ hline)
    rw [hnone text rfl, hnone other hwords.symm]

namespace Line

def tokens (l : Line) : List String := if l.verb = "" then l.args else l.verb :: l.args

theorem ofText_eq {text verb : String} {args : List String}
    (h : Text.words text = verb :: args) : ofText text = ⟨Text.lowerCase verb, args⟩ := by
  rw [ofText, h]

theorem ofText_congr {text other : String} (h : Text.words text = Text.words other) :
    ofText text = ofText other := by
  rw [ofText, ofText, h]

theorem args_eq (text : String) : (ofText text).args = (Text.words text).tail := by
  unfold ofText
  split
  · next h => rw [h, List.tail_nil]
  · next h => rw [h, List.tail_cons]

theorem isWord_of_mem_tokens {text w : String} (h : w ∈ (ofText text).tokens) :
    Text.isWord w = true := by
  have hwords : ∀ w ∈ Text.words text, Text.isWord w = true := fun _ => Text.isWord_of_mem_words
  cases hrow : Text.words text with
  | nil =>
    rw [ofText, hrow] at h
    cases h
  | cons verb args =>
    rw [hrow, List.forall_mem_cons] at hwords
    rw [ofText_eq hrow, tokens] at h
    split at h
    · exact hwords.2 w h
    · rcases List.mem_cons.mp h with rfl | harg
      · exact Text.isWord_lowerCase hwords.1
      · exact hwords.2 w harg

end Line

theorem Clause.sides {args target : List String} {source : Option (List String)}
    (h : Clause args target source) (hargs : ∀ w ∈ args, Text.isWord w = true) :
    Text.words (Fabula.splitFrom args).1 = target ∧
      (Fabula.splitFrom args).2.map Text.words = source := by
  rw [h.splitFrom]
  cases h with
  | whole => exact ⟨Text.words_unwords hargs, rfl⟩
  | split =>
    simp only [List.forall_mem_append, List.forall_mem_cons] at hargs
    obtain ⟨htarget, -, hsource⟩ := hargs
    exact ⟨Text.words_unwords htarget, congrArg some (Text.words_unwords hsource)⟩

theorem Clause.parts {args target source : List String} (h : Clause args target (some source)) :
    ∃ marker, Text.caseFold marker = "from" ∧ args = target ++ marker :: source ∧
      ∀ w ∈ target, Text.caseFold w ≠ "from" := by
  cases h with
  | split hplain hmarker => exact ⟨_, hmarker, rfl, hplain⟩

theorem Clause.plain {args target : List String} (h : Clause args target none) :
    ∀ w ∈ args, Text.caseFold w ≠ "from" := by
  cases h with
  | whole hplain => exact hplain

namespace Game

theorem execute_congr {text other : String} (h : Text.words text = Text.words other) (g : Game) :
    g.execute text = g.execute other := by
  rw [execute, execute, Line.ofText_congr h]

theorem reading_congr {g : Game} {step : Game → String → Outcome} {text other : String}
    (h : step g text = step g other) (rest : Lines) :
    g.reading (some text :: rest) step = g.reading (some other :: rest) step := by
  simp only [reading, Outcome.next, h]

inductive Respaced (text other : String) (rest : Lines) : Turn → Turn → Prop
  | read (t : Turn) : t.unread = rest → Respaced text other rest t t
  | kept (outcome : Outcome) (alive : Bool) : Respaced text other rest
      ⟨outcome, some text :: rest, alive⟩ ⟨outcome, some other :: rest, alive⟩

theorem Respaced.outcome {text other : String} {rest : Lines} {t t' : Turn}
    (h : Respaced text other rest t t') : t.outcome = t'.outcome := by
  cases h <;> rfl

theorem reading_respaced {g : Game} {step : Game → String → Outcome} {text other : String}
    (h : step g text = step g other) (rest : Lines) : Respaced text other rest
      (g.reading (some text :: rest) step) (g.reading (some other :: rest) step) := by
  rw [← reading_congr h]
  exact .read _ (g.reading_unread ..)

def Unmistaken (g : Game) (text other : String) : Prop :=
  ∀ question options, g.session.pending = some (.choose question options) →
    Text.trim text = Text.trim other ∨
      ∀ option ∈ options, Text.words option.1 ≠ Text.words text

theorem answer_respaced {g : Game} {cue : Cue} {text other : String}
    (hp : g.session.pending = some cue) (hwords : Text.words text = Text.words other)
    (h : g.Unmistaken text other) : answer cue g text = answer cue g other := by
  have hreply : cue.reply? text = cue.reply? other := by
    cases cue with
    | choose question options => exact Cue.reply?_respaced hwords (h question options hp)
    | _ => rfl
  rw [answer, answer, hreply]

theorem tick_respaced {g : Game} {text other : String}
    (hwords : Text.words text = Text.words other) (h : g.Unmistaken text other) (rest : Lines) :
    Respaced text other rest (g.tick (some text :: rest)) (g.tick (some other :: rest)) := by
  have htakes := g.tick_takes (some text :: rest)
  generalize g.tick (some text :: rest) = t at htakes
  cases htakes with
  | finished hf =>
    rw [tick_finished hf]
    exact .kept ..
  | answered hf hp =>
    rw [tick_pending hf hp]
    exact reading_respaced (answer_respaced hp hwords h) rest
  | queued hf hp hq =>
    rw [tick_queued hf hp hq]
    exact .kept ..
  | scripted hf hp hq hr =>
    rw [tick_scripted hf hp hq hr]
    exact .kept ..
  | commanded hstate =>
    rw [tick_awaiting hstate]
    exact reading_respaced (congrArg Answer.outcome (execute_congr hwords g)) rest

/-- The tokens of a line are words, and the line is read back from its words with a space between
each two. The sides of a `from` among the arguments are all that there is around the first `from`.
So a line is the same command as any other of its words, and the turns with them are the same,
unless a choice is open that has an option of just these words. -/
theorem lines_respaced (text : String) :
    let l := Line.ofText text
    (∀ w ∈ l.tokens, Text.isWord w = true) ∧
    (∃ ws, Text.Spaced ws text.toList ∧ l.args = ws.tail ∧
      Line.ofText (Text.unwords ws) = l) ∧
    (∀ target source, splitFrom l.args = (target, some source) → ∃ marker,
      Text.caseFold marker = "from" ∧
      l.args = Text.words target ++ marker :: Text.words source ∧
      ∀ w ∈ Text.words target, Text.caseFold w ≠ "from") ∧
    (∀ target, splitFrom l.args = (target, none) →
      Text.words target = l.args ∧ ∀ w ∈ l.args, Text.caseFold w ≠ "from") ∧
    ∀ other, Text.SameWords text other → ∀ g : Game,
      g.execute text = g.execute other ∧
      (g.Unmistaken text other → ∀ rest,
        Respaced text other rest (g.tick (some text :: rest)) (g.tick (some other :: rest))) := by
  intro l
  have hargs : ∀ w ∈ l.args, Text.isWord w = true :=
    fun w hw => Text.isWord_of_mem_words (List.mem_of_mem_tail (Line.args_eq text ▸ hw))
  have hback : Text.words (Text.unwords (Text.words text)) = Text.words text :=
    Text.words_unwords fun _ => Text.isWord_of_mem_words
  obtain ⟨_, _, hclause⟩ := exists_clause l.args
  have hsides := hclause.sides hargs
  refine ⟨fun _ => Line.isWord_of_mem_tokens, ⟨Text.words text, Text.words_eq_iff.mp rfl,
    Line.args_eq text, Line.ofText_congr hback⟩, fun target source hsplit => ?_,
    fun target hsplit => ?_, fun other hother g => ?_⟩
  · rw [hsplit] at hsides
    obtain ⟨rfl, rfl⟩ := hsides
    exact hclause.parts
  · rw [hsplit] at hsides
    obtain ⟨rfl, rfl⟩ := hsides
    exact ⟨hclause.target_whole, hclause.plain⟩
  · have hwords := Text.sameWords_iff.mp hother
    exact ⟨execute_congr hwords g, fun h => tick_respaced hwords h⟩

theorem lines_respaced_sample : ∃ o, ofDocument Sample.document .english false = .ok o ∧
    Text.SameWords "take letter from well" " take\tletter from  well\u00A0" ∧
    (o.game.after arrival).Unmistaken "take letter from well" " take\tletter from  well\u00A0" ∧
    ((o.game.after arrival).tick [some " take\tletter from  well\u00A0"]).outcome.seen =
      [.asked "> ", .shown "Took Letter."] := by
  have hrun : (ofDocument Sample.document .english false).toOption.any (fun o =>
      (o.game.after arrival).session.pending.isNone &&
      ((o.game.after arrival).tick [some "take letter from well"]).outcome.seen ==
        [.asked "> ", .shown "Took Letter."]) = true := by decide +kernel
  obtain ⟨o, ho, hrest⟩ := opens_with hrun
  rw [Bool.and_eq_true, Option.isNone_iff_eq_none, beq_iff_eq] at hrest
  obtain ⟨hpending, hseen⟩ := hrest
  have hsame : Text.SameWords "take letter from well" " take\tletter from  well\u00A0" :=
    Text.sameWords_iff.mpr (by decide +kernel)
  have hclear : (o.game.after arrival).Unmistaken "take letter from well"
      " take\tletter from  well\u00A0" := by
    intro question options hopen
    rw [hpending] at hopen
    cases hopen
  obtain ⟨-, -, -, -, hturns⟩ := lines_respaced "take letter from well"
  have hturn := (hturns _ hsame (o.game.after arrival)).2 hclear []
  exact ⟨o, ho, hsame, hclear, hturn.outcome ▸ hseen⟩

def twoWordChoice : Node :=
  Sample.around "adventure" [] [Sample.around "entry" [("id", "1")] [
    Sample.around "select" [("text", "Which way?")] [
      Sample.option "red door" [Sample.narration "In you go."]]]]

/-- An answer to a choice is no option with another space between its words. -/
theorem answer_misspaced : Text.SameWords "red door" "red  door" ∧
    ∃ o, ofDocument twoWordChoice .english false = .ok o ∧
      ((o.game.after [.tick []]).tick [some "red door"]).outcome.game.session.state =
        .runningQueue ∧
      ((o.game.after [.tick []]).tick [some "red  door"]).outcome.game.session.state =
        .suspended ∧
      ((o.game.after [.tick []]).tick [some "red door"]).outcome ≠
        ((o.game.after [.tick []]).tick [some "red  door"]).outcome := by
  have hrun : (ofDocument twoWordChoice .english false).toOption.any (fun o =>
      ((o.game.after [.tick []]).tick [some "red door"]).outcome.game.session.state ==
        .runningQueue &&
      ((o.game.after [.tick []]).tick [some "red  door"]).outcome.game.session.state ==
        .suspended) = true := by decide +kernel
  obtain ⟨o, ho, hstates⟩ := opens_with hrun
  rw [Bool.and_eq_true, beq_iff_eq, beq_iff_eq] at hstates
  obtain ⟨hmatched, hopen⟩ := hstates
  refine ⟨Text.sameWords_iff.mpr (by decide +kernel), o, ho, hmatched, hopen, fun hsame => ?_⟩
  rw [hsame, hopen] at hmatched
  cases hmatched

end Game

end Fabula

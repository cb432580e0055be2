import Fabula.Proofs.Session
import Fabula.Proofs.Speech

set_option autoImplicit false

namespace Fabula

namespace Template

/-- A plain template by its fields, each with the text before it, and the text behind them all. -/
structure Wording where
  parts : List (String × String)
  last : String

namespace Wording

def partPieces (part : String × String) : List Piece :=
  part.1.toList.map .char ++ [.field part.2]

def pieces (w : Wording) : List Piece := w.parts.flatMap partPieces ++ w.last.toList.map .char

@[simp] def text (w : Wording) (shows : String → String) : String :=
  w.parts.foldr (fun part rest => part.1 ++ shows part.2 ++ rest) w.last

end Wording

section

variable {fields : Fields}

theorem writeAll_chars (cs : List Char) {ps : List Piece} {rest : List Char}
    (h : writeAll fields ps = .ok rest) : writeAll fields (cs.map .char ++ ps) = .ok (cs ++ rest) := by
  induction cs with
  | nil => exact h
  | cons c cs ih =>
    rw [List.map_cons, List.cons_append, writeAll, ih]
    rfl

theorem writeAll_wording {shows : String → String} (w : Wording)
    (h : ∀ part ∈ w.parts, shownOf fields part.2 = .ok (shows part.2).toList) :
    writeAll fields w.pieces = .ok (w.text shows).toList := by
  obtain ⟨parts, last⟩ := w
  induction parts with
  | nil =>
    have hlast : writeAll fields (last.toList.map .char ++ []) = .ok (last.toList ++ []) :=
      writeAll_chars last.toList rfl
    simpa [Wording.pieces, Wording.text] using hlast
  | cons part parts ih =>
    simp only [List.forall_mem_cons] at h
    have hrest : writeAll fields (.field part.2 :: Wording.pieces ⟨parts, last⟩) =
        .ok ((shows part.2).toList ++ (Wording.text ⟨parts, last⟩ shows).toList) := by
      rw [writeAll, h.1, ih h.2]
      rfl
    have hpart := writeAll_chars part.1.toList hrest
    simpa [Wording.pieces, Wording.text, Wording.partPieces] using hpart

end

end Template

def Catalogue.wordings : Table String Template.Wording := [
  ("taken", ⟨[("Took ", "item")], "."⟩),
  ("already_carried", ⟨[("You already carry ", "item")], "."⟩),
  ("dropped", ⟨[("Dropped ", "item")], "."⟩),
  ("prop_contents", ⟨[("Inside the ", "prop")], " you see:"⟩),
  ("prop_entry", ⟨[("", "article"), (" ", "item"), (" [", "index")], "]"⟩),
  ("prop_empty", ⟨[("The ", "prop")], " is empty."⟩),
  ("moved", ⟨[("You moved [", "direction")], "]."⟩),
  ("blocked", ⟨[("The ", "type"), (" [", "direction")], "] is closed."⟩),
  ("look_prop", ⟨[("You notice a ", "prop"), (" [", "index")], "]."⟩),
  ("look_connection", ⟨[("There is a ", "type"), (" [", "direction")], "]."⟩),
  ("look_item",
    ⟨[("You see ", "article"), (" ", "item"), (" [", "index")], "] laying around."⟩),
  ("opened", ⟨[("You opened the ", "type"), (" [", "direction")], "]."⟩),
  ("already_open", ⟨[("The ", "type"), (" [", "direction")], "] is already open."⟩),
  ("needs_key",
    ⟨[("The ", "type"), (" [", "direction"), ("] is locked. You need ", "item")], "."⟩)]

theorem Catalogue.wordings_known : ∀ row ∈ Catalogue.wordings,
    (Table.get? Catalogue.english row.1).any (fun template =>
      Template.pieces? template.toList.length template.toList == some row.2.pieces) = true := by
  decide +kernel

@[simp] def shownBy (fs : List (String × Filler)) (name : String) : String :=
  ((fs.lookup name).map Filler.english).getD ""

namespace Game

variable {g : Game}

theorem fill_shown (henglish : g.catalogue = .english) {key : String} {w : Template.Wording}
    (hw : Catalogue.wordings.get? key = some w) {fs : List (String × Filler)}
    (hfields : w.parts.all (fun part => (fs.lookup part.2).any (!·.IsAmount)) = true) :
    (Deed.fill key fs).perform g = g.display (w.text (shownBy fs)) := by
  obtain ⟨vs, hvs, hvalues⟩ := fields_english henglish fs
  obtain ⟨template, ht, hpieces⟩ := (Option.any_eq_true ..).mp
    (Catalogue.wordings_known _ (Table.mem_of_get? hw))
  have hwritten : Template.writeAll vs w.pieces = .ok (w.text (shownBy fs)).toList := by
    refine Template.writeAll_wording w fun part hpart => ?_
    obtain ⟨f, hf, hamount⟩ :=
      (Option.any_eq_true ..).mp (List.all_eq_true.mp hfields part hpart)
    obtain ⟨v, hv, -, hplain⟩ := filler_english henglish f
    have hvalue : vs.lookup part.2 = some v := by
      rw [hvalues, hf, Option.bind_some, hv]
      rfl
    rw [Template.shownOf, hvalue, shownBy, hf]
    simp only [hplain (by simpa using hamount), Except.map, Option.map_some, Option.getD_some]
  have hfilled : g.filled key fs = .ok (w.text (shownBy fs)) := by
    simp only [filled, message, henglish, ht, hvs, pure, Except.pure, bind, Except.bind]
    rw [render, Template.render_of_pieces? (beq_iff_eq.mp hpieces), hwritten]
    simp [Except.map]
  rw [Deed.perform, hfilled]
  rfl

theorem performAll_append (ds es : List Deed) (g : Game) :
    performAll (ds ++ es) g = (performAll ds g).next (performAll es) := by
  induction ds generalizing g with
  | nil => simp [Outcome.next, Outcome.done]
  | cons d ds ih =>
    rw [List.cons_append, performAll_cons, performAll_cons]
    cases hf : (d.perform g).fault with
    | some fault => simp [Outcome.next, hf]
    | none =>
      cases hlater : (performAll ds (d.perform g).game).fault <;>
        simp [Outcome.next, hf, ih, hlater]

theorem execute_eq {text : String} {ds : List Deed}
    (hdeeds : (Line.ofText text).deeds? g = some ds) :
    g.execute text = ⟨(g.trace .command ("command " ++ (Line.ofText text).verb ++ " args " ++
      Text.quotedList (Line.ofText text).args)).next (performAll ds), true⟩ := by
  have hverb : ¬(Line.ofText text).verb = "" := by
    intro hblank
    simp [Line.deeds?, hblank, Verb.ofWord?] at hdeeds
  simp only [execute, hverb, hdeeds, if_false]

theorem execute_seen {text : String} {ds : List Deed}
    (hdeeds : (Line.ofText text).deeds? g = some ds) :
    (g.execute text).outcome.seen = (performAll ds g).seen := by
  rw [execute_eq hdeeds, Outcome.next_seen, trace_seen, trace_fault, trace_game]
  rfl

theorem execute_fault {text : String} {ds : List Deed}
    (hdeeds : (Line.ofText text).deeds? g = some ds) :
    (g.execute text).outcome.fault = (performAll ds g).fault := by
  rw [execute_eq hdeeds, Outcome.next_fault, trace_fault, trace_game]
  rfl

theorem execute_game {text : String} {ds : List Deed}
    (hdeeds : (Line.ofText text).deeds? g = some ds) :
    (g.execute text).outcome.game = (performAll ds g).game := by
  rw [execute_eq hdeeds, trace_next]

def Shows (g : Game) (ds : List Deed) (texts : List String) : Prop :=
  performAll ds g = ⟨g, texts.map .shown, none⟩

theorem Shows.nil : g.Shows [] [] := rfl

theorem Shows.cons {d : Deed} {ds : List Deed} {text : String} {texts : List String}
    (hd : d.perform g = g.display text) (hds : g.Shows ds texts) :
    g.Shows (d :: ds) (text :: texts) := by
  have hrest : performAll ds g = ⟨g, texts.map .shown, none⟩ := hds
  rw [Shows, performAll_cons, hd, display, Outcome.next, hrest]
  rfl

theorem Shows.append {ds es : List Deed} {texts others : List String} (hds : g.Shows ds texts)
    (hes : g.Shows es others) : g.Shows (ds ++ es) (texts ++ others) := by
  have hfirst : performAll ds g = ⟨g, texts.map .shown, none⟩ := hds
  have hlater : performAll es g = ⟨g, others.map .shown, none⟩ := hes
  rw [Shows, performAll_append, hfirst, Outcome.next, hlater]
  simp

theorem Shows.mapIdx {α : Type} {f : Nat → α → Deed} {text : Nat → α → String} (l : List α)
    (h : ∀ i x, (f i x).perform g = g.display (text i x)) :
    g.Shows (l.mapIdx f) (l.mapIdx text) := by
  induction l generalizing f text with
  | nil => exact .nil
  | cons x l ih =>
    rw [List.mapIdx_cons, List.mapIdx_cons]
    exact .cons (h 0 x) (ih fun i y => h (i + 1) y)

theorem Shows.map {α : Type} {f : α → Deed} {text : α → String} (l : List α)
    (h : ∀ x, (f x).perform g = g.display (text x)) : g.Shows (l.map f) (l.map text) := by
  induction l with
  | nil => exact .nil
  | cons x l ih => exact .cons (h x) ih

theorem Shows.execute {text : String} {ds : List Deed} {texts : List String}
    (hdeeds : (Line.ofText text).deeds? g = some ds) (h : g.Shows ds texts) :
    (g.execute text).outcome.game = g ∧ (g.execute text).outcome.fault = none ∧
      (g.execute text).outcome.seen = texts.map .shown := by
  have hall : performAll ds g = ⟨g, texts.map .shown, none⟩ := h
  have hseen : (texts.map Event.shown).filter Event.isSeen = texts.map .shown := by
    simp [List.filter_eq_self]
  rw [execute_game hdeeds, execute_fault hdeeds, execute_seen hdeeds, hall]
  exact ⟨rfl, rfl, hseen⟩

end Game

end Fabula

import Fabula.Play.Turn
import Fabula.Proofs.Cue

/-!
Recitals: the nodes of a scene read out in the order in which they are written. A choice is read
out together with its answer and all that follows on it, and only then comes the next node.
-/

set_option autoImplicit false

namespace Fabula

/-- What a recital leaves. It is cut short where no line is left to be read. -/
structure Recital where
  area : Option String
  events : List Event
  unread : List String
  cutShort : Bool
  deriving Repr, DecidableEq

/-- A part of a recital: what it leaves, by the area it begins in and the lines still unread. -/
abbrev Part := Option String → List String → Recital

namespace Recital

def after (r : Recital) (seen : List Event) : Recital := { r with events := seen ++ r.events }

def andThen (r : Recital) (next : Part) : Recital :=
  if r.cutShort then r else (next r.area r.unread).after r.events

theorem after_andThen (r : Recital) (seen : List Event) (next : Part) :
    (r.after seen).andThen next = (r.andThen next).after seen := by
  cases hc : r.cutShort <;> simp [andThen, after, hc]

end Recital

namespace Part

def pause : Part := fun area lines => ⟨area, [], lines, false⟩

def branch? (answer : String) : Nat → List (String × Part) → Option Part
  | _, [] => none
  | n, (text, p) :: branches =>
    if answer = Nat.repr n ∨ answer = text then some p else branch? answer (n + 1) branches

def numbered : Nat → List String → List Event
  | _, [] => []
  | n, text :: texts => .shown (Nat.repr n ++ " - " ++ text) :: numbered (n + 1) texts

/-- Asks for lines until one of them is an answer, and goes on with its branch. -/
def ask (branches : List (String × Part)) (area : Option String) : List String → Recital
  | [] => ⟨area, [.asked "> "], [], true⟩
  | line :: lines =>
    Recital.after
      (match branch? (Text.trim line) 1 branches with
        | some p => p area lines
        | none => ask branches area lines)
      [.asked "> "]

def choice (question : String) (branches : List (String × Part)) : Part := fun area lines =>
  (ask branches area lines).after (.shown question :: numbered 1 (branches.map (·.1)))

end Part

namespace Node

mutual

def part? : Node → Option Part
  | ⟨name, attributes, value, children⟩ =>
    let n : Node := ⟨name, attributes, value, []⟩
    if n.tagged "text" then some fun area lines => ⟨area, [.shown value], lines, false⟩
    else if n.tagged "enter" then some fun _ lines => ⟨some (n.attr "area"), [], lines, false⟩
    else if n.tagged "continue" then some Part.pause
    else if n.tagged "select" then some (Part.choice n.caption (branches children))
    else none

def branches : List Node → List (String × Part)
  | [] => []
  | ⟨name, attributes, value, children⟩ :: nodes =>
    let n : Node := ⟨name, attributes, value, []⟩
    if n.tagged "option" then (n.caption, firstPart children) :: branches nodes else branches nodes

def firstPart : List Node → Part
  | [] => Part.pause
  | n :: nodes =>
    match part? n with
    | some p => p
    | none => firstPart nodes

end

def recite : List Node → Part
  | [] => Part.pause
  | n :: nodes =>
    match n.part? with
    | some p => fun area lines => (p area lines).andThen (recite nodes)
    | none => recite nodes

theorem part?_eq (n : Node) : n.part? =
    if n.tagged "text" then some fun area lines => ⟨area, [.shown n.value], lines, false⟩
    else if n.tagged "enter" then some fun _ lines => ⟨some (n.attr "area"), [], lines, false⟩
    else if n.tagged "continue" then some Part.pause
    else if n.tagged "select" then some (Part.choice n.caption (branches n.children))
    else none := by
  cases n
  rw [part?]
  rfl

def optionParts (nodes : List Node) : List (String × Part) :=
  nodes.map fun n => (n.caption, firstPart n.children)

theorem branches_eq (nodes : List Node) :
    branches nodes = optionParts (nodes.filter (·.tagged "option")) := by
  induction nodes with
  | nil => simp [branches, optionParts]
  | cons n nodes ih =>
    cases n with
    | mk name attributes value children =>
      rw [branches, List.filter_cons]
      have htag : tagged ⟨name, attributes, value, []⟩ "option" =
        tagged ⟨name, attributes, value, children⟩ "option" := rfl
      rw [htag]
      cases tagged ⟨name, attributes, value, children⟩ "option" with
      | true => simpa [optionParts] using ⟨rfl, ih⟩
      | false => simpa using ih

theorem part?_isSome (n : Node) : n.part?.isSome = n.cue?.isSome := by
  rw [part?_eq, cue?_eq]
  cases n.tagged "text" <;> cases n.tagged "enter" <;> cases n.tagged "continue" <;>
    cases n.tagged "select" <;> rfl

end Node

end Fabula

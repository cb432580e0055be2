import Fabula.Node
import Fabula.Text.Blank
import Fabula.Text.LowerCase

set_option autoImplicit false

namespace Fabula

/-- What a cue does that no document can write. -/
inductive Action where
  /-- Says farewell and ends the session. -/
  | finish
  /-- Does nothing; the cue is done with at once, or never. -/
  | hold (done : Bool)
  /-- Stands where a cue is missing, and can not be played. -/
  | missing
  deriving Repr, DecidableEq

inductive Cue where
  | narrate (text : String)
  | enter (area : String)
  | pass
  | act (action : Action)
  | choose (question : String) (options : List (String × Cue))
  deriving Repr

namespace Cue

def kind : Cue → String
  | .narrate _ => "TextCommand"
  | .enter _ => "EnterCommand"
  | .pass => "ContinueCommand"
  | .act _ => "CustomCommand"
  | .choose .. => "SelectCommand"

def option? (answer : String) : Nat → List (String × Cue) → Option Cue
  | _, [] => none
  | n, (text, cue) :: options =>
    if answer = Nat.repr n ∨ answer = text then some cue else option? answer (n + 1) options

def reply? : Cue → String → Option Cue
  | .choose _ options, line => option? (Text.trim line) 1 options
  | _, _ => none

end Cue

namespace Node

def caption (n : Node) : String := (n.filled? "text").getD n.value

def tagged (n : Node) (tag : String) : Bool := Text.lowerCase n.name == tag

mutual

def cue? : Node → Option Cue
  | ⟨name, attributes, value, children⟩ =>
    let n : Node := ⟨name, attributes, value, []⟩
    if n.tagged "text" then some (.narrate value)
    else if n.tagged "enter" then some (.enter (n.attr "area"))
    else if n.tagged "continue" then some .pass
    else if n.tagged "select" then some (.choose n.caption (options children))
    else none

def options : List Node → List (String × Cue)
  | [] => []
  | ⟨name, attributes, value, children⟩ :: nodes =>
    let n : Node := ⟨name, attributes, value, []⟩
    if n.tagged "option" then (n.caption, firstCue children) :: options nodes else options nodes

/-- The first cue that the children of an option write; without one the option just passes. -/
def firstCue : List Node → Cue
  | [] => .pass
  | n :: nodes =>
    match cue? n with
    | some cue => cue
    | none => firstCue nodes

end

end Node

structure Scene where
  id : String
  cues : List Cue
  deriving Repr

namespace Scene

structure NoCue where
  scene : String
  index : Int
  count : Nat
  deriving Repr, DecidableEq

def NoCue.message (f : NoCue) : String :=
  "Entry '" ++ f.scene ++ "' has no command at index " ++ Text.decimal f.index ++
    " (count " ++ Nat.repr f.count ++ ")"

/-- A child that names the scene is no cue, whatever else it could be read as. -/
def ofNode (n : Node) : Scene :=
  ⟨n.attr "id", (n.children.filter (·.name != "id")).filterMap Node.cue?⟩

def cueAt (s : Scene) (index : Int) : Except NoCue Cue :=
  match index with
  | .ofNat i =>
    match s.cues[i]? with
    | some cue => pure cue
    | none => .error ⟨s.id, index, s.cues.length⟩
  | .negSucc _ => .error ⟨s.id, index, s.cues.length⟩

end Scene

end Fabula

import Fabula.Catalogue.Loading
import Fabula.Play.Turn

set_option autoImplicit false

namespace Fabula

inductive NoGame where
  /-- It has been reported; some reports end with a last word. -/
  | reported (lastWord : String)
  | broken (m : Mishap)
  deriving Repr, DecidableEq

structure Opening where
  events : List Event
  game : Except NoGame Game

namespace Opening

def refused (reports : List String) (lastWord : String) : Opening :=
  ⟨reports.map .shown, .error (.reported lastWord)⟩

def broken (m : Mishap) : Opening := ⟨[], .error (.broken m)⟩

def report? (path : String) : Mishap → Option String
  | .denied .unusable => none
  | .denied .absent => some ("ERROR: Missing world file: " ++ Denied.absent.message path)
  | .denied d => some ("ERROR: Cannot read world file: " ++ d.message path)
  | .refused (.flaw flaw) => some ("ERROR: Invalid world file: " ++ flaw.message)
  | .refused (.breakdown _) | .notUtf8 => none

def lastWord : String := "Integrity check failed"

def ofDocument (catalogue : Catalogue) (document : Node) (traced : Bool) : Opening :=
  match Game.ofDocument document catalogue traced with
  | .ok o => ⟨o.events, .ok o.game⟩
  | .error (.complaints found) => refused (found.map fun c => "ERROR: " ++ c.message) lastWord
  | .error (.flaw flaw) => refused ["ERROR: Invalid world file: " ++ flaw.message] ""

/-- The opening of a game of the document at a path. -/
def ofSources (catalogue : Except Catalogue.Problem Catalogue) (path : String)
    (document : Except Mishap Node) (traced : Bool) : Opening :=
  match catalogue, document with
  | .error problem, _ =>
    match problem, problem.report? with
    | _, some report => refused [report] ""
    | .mishap m, none => broken m
    | _, none => refused [] ""
  | .ok _, .error m =>
    match report? (Path.normal path) m with
    | some report => refused [report] ""
    | none => broken m
  | .ok catalogue, .ok document => ofDocument catalogue document traced

end Opening

end Fabula

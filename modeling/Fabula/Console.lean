import Fabula.Catalogue.English
import Fabula.Invocation
import Fabula.Play.Opening
import Fabula.Sample

set_option autoImplicit false

namespace Fabula.Console

inductive Ending where
  | done
  | noGame (n : NoGame)
  | fault (f : Fault)
  | noTrace (d : Denied)
  deriving Repr

structure Report where
  events : List Event
  ending : Ending
  folder : Folder

def samplePath : String := "data/adventure.xml"

def session (f : Folder) (i : Invocation) (input : Lines) (r : Readers := .usual) :
    List Event × Ending :=
  let document := match i.document with
    | some path => Node.ofFile f path r
    | none => .ok Sample.document
  let o := Opening.ofSources (Catalogue.load Folder.catalogues i.language r)
    (i.document.getD samplePath) document (i.tracing != .off)
  match o.game with
  | .error n => (o.events, .noGame n)
  | .ok g =>
    let t := g.run input
    (o.events ++ t.outcome.events,
      match t.outcome.fault with
      | some fault => .fault fault
      | none => .done)

def shownText (events : List Event) : String :=
  String.join (events.map fun
    | .shown text => text ++ "\n"
    | .asked prompt => prompt
    | .traced .. => "")

/-- The lines of a trace. Before a line stands the place in the program that it comes from, if the
places are known. -/
def traceLines (events : List Event) (places : Topic → Option String := fun _ => none) :
    List String :=
  events.filterMap fun
    | .traced topic line =>
      some (match places topic with
        | some place => place ++ " -- " ++ line
        | none => line)
    | _ => none

def inputLines (input : String) : Lines :=
  (Text.linesOf (Text.unifyLineEnds input.toList)).map fun line =>
    some (String.ofList (line.reverse.dropWhile (· == '\r')).reverse)

/-- Plays a session in a folder. The file of a trace is emptied at the start, and filled at the
end. Neither the texts nor the trace of a document with halves of characters could be written in
UTF-8: it is played with stand-ins for them. -/
def play (f : Folder) (i : Invocation) (input : String) (r : Readers := .usual)
    (places : Topic → Option String := fun _ => none) : Report :=
  match i.tracing with
  | .toFile path =>
    match f.wayTo path with
    | .error d => ⟨[], .noTrace d, f⟩
    | .ok way =>
      let (events, ending) := session (f.write way ByteArray.empty) i (inputLines input) r
      let trace := String.join ((traceLines events places).map (· ++ "\n"))
      ⟨events, ending, f.write way trace.toUTF8⟩
  | _ =>
    let (events, ending) := session f i (inputLines input) r
    ⟨events, ending, f⟩

end Fabula.Console

import Fabula.Console
import Fabula.Proofs.English
import Fabula.Proofs.Notation
import Fabula.Proofs.Opening
import Fabula.Proofs.Session
import Fabula.Proofs.Writing

/-!
Tracing: a game that leaves a trace and one that leaves none are played alike. What a step of one of
them leaves and shows, but for the trace, is what the same step of the other leaves and shows. So it
is on the console, with the trace on standard error or in a file.
-/

set_option autoImplicit false

namespace Fabula

def Game.untraced (g : Game) : Game := { g with traced := false }

def Outcome.untraced (o : Outcome) : Outcome := ⟨o.game.untraced, o.seen, o.fault⟩

def Turn.untraced (t : Turn) : Turn := { t with outcome := t.outcome.untraced }

def Answer.untraced (a : Answer) : Answer := { a with outcome := a.outcome.untraced }

def Opening.untraced (o : Opening) : Opening :=
  ⟨o.events.filter Event.isSeen, o.game.map Game.untraced⟩

namespace Outcome

end Outcome

namespace Game

section

variable (g : Game)

end

end Game

namespace Deed

end Deed

namespace Game

end Game

namespace Turn

end Turn

namespace Game

end Game

namespace Opening

end Opening

namespace Console

def opening (r : Readers) (i : Invocation) (document : Except Mishap Node) (traced : Bool) :
    Opening :=
  Opening.ofSources (Catalogue.load Folder.catalogues i.language r)
    (i.document.getD samplePath) document traced

section

variable (r : Readers) (f : Folder) (i : Invocation) (input : Lines)

end

section

variable (r : Readers) (places : Topic → Option String) (f : Folder) (i : Invocation)
  (input : String)

def onStandardError : Report := play f { i with tracing := .onStandardError } input r places

end

end Console

end Fabula

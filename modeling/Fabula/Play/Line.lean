import Fabula.Text.Blank
import Fabula.Text.CaseFold
import Fabula.Table
import Fabula.Text.LowerCase

set_option autoImplicit false

namespace Fabula

structure Line where
  /-- Empty if the line is blank. -/
  verb : String
  args : List String
  deriving Repr, DecidableEq

namespace Line

def ofText (text : String) : Line :=
  match Text.words text with
  | [] => ⟨"", []⟩
  | verb :: args => ⟨Text.lowerCase verb, args⟩

def argument (l : Line) : String := Text.unwords l.args

end Line

def isFrom (word : String) : Bool := Text.caseFold word == "from"

def splitFrom (args : List String) : String × Option String :=
  (Text.unwords (args.takeWhile (!isFrom ·)),
    match args.dropWhile (!isFrom ·) with
    | [] => none
    | _ :: source => some (Text.unwords source))

def opposites : Table String String := [
  ("north", "south"), ("south", "north"), ("east", "west"), ("west", "east"), ("up", "down"),
  ("down", "up")]

def opposite? (direction : String) : Option String := opposites.get? (Text.caseFold direction)

end Fabula

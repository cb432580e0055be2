set_option autoImplicit false

namespace Fabula.Yaml

inductive Breakdown where
  /-- A text tagged as a number is none. -/
  | noNumber
  /-- A text tagged as a number is empty but for its sign. -/
  | emptyNumber
  /-- A text tagged as a truth value is none. -/
  | noTruth (text : String)
  /-- A text tagged as a moment is not written like one. -/
  | noMoment
  /-- A moment that no calendar has. -/
  | outsideCalendar
  /-- A value tagged as a moment is no text. -/
  | noMomentText
  /-- An escape names a number beyond the last character. -/
  | noCharacter
  | tooLarge
  | tooLong
  /-- What follows in a file is no text. -/
  | unreadable
  | tooDeep
  /-- Children are wanted of a value that has no parts. -/
  | noParts
  /-- Values stand in each other too deeply, or without an end. -/
  | endless
  deriving Repr, DecidableEq

inductive Fault where
  | malformed (reason : String)
  | textEnds
  | breakdown (how : Breakdown)
  deriving Repr, DecidableEq

def Fault.message : Fault → String
  | malformed reason => reason
  | textEnds => "the text ends within quotes"
  | breakdown _ => "a value breaks down"

end Fabula.Yaml

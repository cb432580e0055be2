import Fabula.Text.Wide
import Fabula.Yaml.Moment

set_option autoImplicit false

namespace Fabula.Yaml

open Fabula.Text (Wide)

inductive Tag where
  | null
  | truth
  | integer
  | float
  | octets
  | moment
  | text
  | sequence
  | mapping
  | set
  | pairs
  | orderedMapping
  /-- Marks a key whose mapping is merged into the one around it. -/
  | merge
  /-- Marks a key whose value stands for the whole mapping. -/
  | byDefault
  | unknown
  deriving Repr, DecidableEq

namespace Tag

def standard : List (String × Tag) := [
  ("null", null), ("bool", truth), ("int", integer), ("float", float), ("binary", octets),
  ("timestamp", moment), ("str", text), ("seq", sequence), ("map", mapping), ("set", set),
  ("pairs", pairs), ("omap", orderedMapping), ("merge", merge), ("value", byDefault)]

def standardUri : String := "tag:yaml.org,2002:"

def ofUri (uri : String) : Tag :=
  ((standard.find? fun (name, _) => standardUri ++ name == uri).map (·.2)).getD unknown

def isWord (words : List String) (cs : List Char) : Bool :=
  words.any fun w =>
    let w := w.toList
    cs == w || cs == w.map Char.toUpper || cs == (w.take 1).map Char.toUpper ++ w.drop 1

def isTruth (cs : List Char) : Bool := isWord ["yes", "no", "true", "false", "on", "off"] cs

def isNull (cs : List Char) : Bool := cs == [] || cs == ['~'] || isWord ["null"] cs

def dropSign (cs : List Char) : List Char :=
  match cs with
  | '+' :: cs => cs
  | '-' :: cs => cs
  | _ => cs

def isGrouped (cs : List Char) : Bool :=
  cs.head?.any Char.isDigit && cs.all fun c => c.isDigit || c == '_'

def colonParts (cs : List Char) : List (List Char) :=
  match cs with
  | [] => [[]]
  | c :: cs =>
    if c = ':' then [] :: colonParts cs
    else match colonParts cs with
      | part :: parts => (c :: part) :: parts
      | [] => [[c]]

def isSixtieth (cs : List Char) : Bool :=
  match cs with
  | [c] => c.isDigit
  | [c, d] => '0' ≤ c && c ≤ '5' && d.isDigit
  | _ => false

def isSixtyfold (first : List Char → Bool) (cs : List Char) : Bool :=
  match colonParts cs with
  | part :: more => first part && !more.isEmpty && more.all isSixtieth
  | [] => false

def isInteger (cs : List Char) : Bool :=
  let fromOne (ds : List Char) := isGrouped ds && ds.head? != some '0'
  match dropSign cs with
  | ['0'] => true
  | '0' :: 'b' :: ds => ds != [] && ds.all fun c => c == '0' || c == '1' || c == '_'
  | '0' :: 'x' :: ds => ds != [] && ds.all fun c => Text.isAsciiDigit 16 c || c == '_'
  | '0' :: ds => ds.all fun c => ('0' ≤ c && c ≤ '7') || c == '_'
  | ds => fromOne ds || isSixtyfold fromOne ds

def isExponent (cs : List Char) : Bool :=
  match cs with
  | [] => true
  | e :: sign :: ds =>
    (e == 'e' || e == 'E') && (sign == '+' || sign == '-') && !ds.isEmpty && ds.all Char.isDigit
  | _ => false

def isFraction (cs : List Char) : Bool :=
  isExponent (cs.dropWhile fun c => c.isDigit || c == '_')

def isFloat (cs : List Char) : Bool :=
  let ds := dropSign cs
  let whole := ds.takeWhile (· != '.')
  match ds.dropWhile (· != '.') with
  | '.' :: fraction =>
    if whole ≠ [] then
      (isGrouped whole && isFraction fraction) ||
        (isSixtyfold isGrouped whole && fraction.all fun c => c.isDigit || c == '_')
    else
      isWord ["inf"] fraction ||
        (ds == cs && (fraction == "nan".toList || fraction == "NaN".toList ||
          fraction == "NAN".toList || (fraction.head?.any Char.isDigit && isFraction fraction)))
  | _ => false

/-- A line break at the end of a text does not change its form. -/
def dropLineEnd (cs : List Char) : List Char :=
  if cs.getLast? = some '\n' then cs.dropLast else cs

def ofForm (cs : List Char) : Tag :=
  if isTruth cs then truth
  else if isFloat cs then float
  else if isInteger cs then integer
  else if cs = ['<', '<'] then merge
  else if isNull cs then null
  else if Time.isForm cs then moment
  else if cs = ['='] then byDefault
  else if cs = ['!'] ∨ cs = ['&'] ∨ cs = ['*'] then unknown
  else text

/-- The tag of a plain scalar. Halves of characters are in no other form than that of a text. -/
def ofPlain (w : Wide) : Tag :=
  match w.chars? with
  | none => text
  | some [] => null
  | some ['\n'] => text
  | some cs => ofForm (dropLineEnd cs)

end Tag

end Fabula.Yaml

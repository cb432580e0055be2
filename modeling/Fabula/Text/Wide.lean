import Fabula.Table
import Fabula.Text.Quoted

/-!
Texts in which halves of characters may stand alone. Two of the numbers from D800 on make one
character in some encodings; an escape can name either of them.
-/

set_option autoImplicit false

namespace Fabula.Text

inductive Point where
  | char (c : Char)
  | half (number : Nat)
  deriving Repr, DecidableEq

abbrev Wide := List Point

namespace Wide

def ofChars (cs : List Char) : Wide := cs.map .char

def ofString (s : String) : Wide := ofChars s.toList

/-- What stands for a half where only characters may stand. -/
def standIn : Char := '\ufffd'

def chars (w : Wide) : List Char :=
  w.map fun
    | .char c => c
    | .half _ => standIn

def string (w : Wide) : String := String.ofList w.chars

def strings (t : Table Wide Wide) : Table String String :=
  t.map fun row => (row.1.string, row.2.string)

def chars? (w : Wide) : Option (List Char) :=
  w.mapM fun
    | .char c => some c
    | .half _ => none

def quoted (w : Wide) : String :=
  let quote := quoteFor w.chars
  String.ofList <| quote :: w.flatMap (fun
    | .char c => quotedChar isPrintable quote c
    | .half n => hexEscape n) ++ [quote]

end Wide

end Fabula.Text
